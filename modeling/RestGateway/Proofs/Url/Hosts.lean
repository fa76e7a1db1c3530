import RestGateway.Proofs.Url.Addresses
import RestGateway.Proofs.Url.Domain
import RestGateway.Proofs.Url.Percent
import RestGateway.Proofs.Url.Sites

/-!
# Hosts are read back

A host that was read is written as a text that stands for it alone: it is read as that host again,
also where a port follows it.
-/

set_option autoImplicit false

namespace RestGateway.Host

/-- The hosts of special URLs: a domain in ASCII that is no number, or an address. -/
inductive IsNormal : Host → Prop
  | name {text : List Char} (settled : Url.toAscii? text = some text)
      (plain : ∀ c ∈ text, c.toNat < 0x80 ∧ Url.isForbidden c = false) (nonempty : text ≠ [])
      (named : Url.endsInNumber text = false) : IsNormal (.name text)
  | ipv4 {n : Nat} (fits : n < 2 ^ 32) : IsNormal (.ipv4 n)
  | ipv6 {pieces : List Nat} (eight : pieces.length = 8) (fits : ∀ x ∈ pieces, x < 65536) :
      IsNormal (.ipv6 pieces)

variable {text : List Char} {h : Host}

theorem parseSpecial_domain (hplain : ∀ c ∈ text, c.toNat < 0x80 ∧ Url.isForbidden c = false)
    (hsettled : Url.toAscii? text = some text) (hne : text ≠ []) :
    parseSpecial text =
      if Url.endsInNumber text then (Url.ipv4? text).map .ipv4 else some (.name text) := by
  have hbracket : bracketed? text = none := by
    unfold bracketed?
    split
    · exact absurd (hplain '[' List.mem_cons_self).2 (by decide)
    · rfl
  have hpercent : '%' ∉ text := fun hm => absurd (hplain '%' hm).2 (by decide)
  have hdecode : Percent.decode (Utf8.encode text) = Utf8.encode text :=
    Percent.decode_plain (Percent.percent_not_mem hpercent)
  have hlossy : (Utf8.lossy (Utf8.encode text)).toList = text := by
    have hstring := congrArg String.toList (Utf8.lossy_bytes (String.ofList text))
    rwa [Utf8.bytes, String.toList_ofList] at hstring
  have hfull : text.isEmpty = false := by simpa using hne
  simp only [parseSpecial, hbracket, hdecode, hlossy, hsettled, Option.bind_eq_bind,
    Option.bind_some, hfull, Bool.false_eq_true, if_false]

theorem ipv4Text_ne_nil (n : Nat) : Url.ipv4Text n ≠ [] := by
  simp [Url.ipv4Text, Nat.toDigits_ne_nil]

/-- The text of a host is read as that host. -/
theorem IsNormal.reads (hnormal : h.IsNormal) : parseSpecial h.chars = some h := by
  cases hnormal with
  | @name text settled plain nonempty named =>
    rw [chars, parseSpecial_domain plain settled nonempty, named]
    rfl
  | @ipv4 n fits =>
    have hdigits : ∀ c ∈ Url.ipv4Text n, c = '.' ∨ c.isDigit = true := fun c hc =>
      Url.mem_ipv4Text hc
    rw [chars, parseSpecial_domain (fun c hc => ⟨(Url.digit_plain (hdigits c hc)).1,
      (Url.digit_plain (hdigits c hc)).2.1⟩) (Url.toAscii_digits hdigits) (ipv4Text_ne_nil n),
      Url.endsInNumber_ipv4, if_pos rfl, Url.ipv4_ipv4Text fits]
    rfl
  | @ipv6 pieces eight fits =>
    have hlast : (Url.ipv6Text pieces ++ [']']).getLast? = some ']' := List.getLast?_concat ..
    simp only [chars, List.cons_append, parseSpecial, bracketed?, parseIpv6, if_pos hlast,
      List.dropLast_concat, Url.ipv6_ipv6Text eight fits, Option.map_some]

theorem IsNormal.chars_ne_nil (hnormal : h.IsNormal) : h.chars ≠ [] := by
  intro hnil
  have hread := hnormal.reads
  rw [hnil, Url.parseSpecial_nil] at hread
  cases hread

theorem IsNormal.ne_empty (hnormal : h.IsNormal) : h ≠ .name [] := by
  rintro rfl
  exact hnormal.chars_ne_nil rfl

def isPlain (c : Char) : Bool := 0x20 < c.toNat && !Url.endsAuthority c && c != '@'

theorem isPlain_iff {c : Char} :
    isPlain c = true ↔ 0x20 < c.toNat ∧ Url.endsAuthority c = false ∧ c ≠ '@' := by
  simp [isPlain, and_assoc]

theorem plain_of_forbidden {c : Char} (hascii : c.toNat < 0x80) (hc : Url.isForbidden c = false) :
    isPlain c = true ∧ c ≠ ':' ∧ c ≠ '[' := by
  revert hc
  exact Ascii.of_forall hascii (by decide)

theorem plain_of_hex {c : Char} (h : Url.isHex c = true) : isPlain c = true ∧ c ≠ ']' := by
  have hascii : c.toNat < 0x80 := by
    obtain ⟨d, hd⟩ := Option.isSome_iff_exists.mp h
    unfold Ascii.hexValue? at hd
    split_ifs at hd with h0 ha hA
    · exact Nat.lt_of_le_of_lt (Char.le_def.mp h0.2) (by decide)
    · exact Nat.lt_of_le_of_lt (Char.le_def.mp ha.2) (by decide)
    · exact Nat.lt_of_le_of_lt (Char.le_def.mp hA.2) (by decide)
  revert h
  exact Ascii.of_forall hascii (by decide)

theorem IsNormal.plain (hnormal : h.IsNormal) : ∀ c ∈ h.chars, isPlain c = true := by
  intro c hc
  cases hnormal with
  | name settled plain nonempty named => exact (plain_of_forbidden (plain c hc).1 (plain c hc).2).1
  | ipv4 fits =>
    obtain ⟨hascii, hforbidden, -⟩ := Url.digit_plain (Url.mem_ipv4Text hc)
    exact (plain_of_forbidden hascii hforbidden).1
  | ipv6 eight fits =>
    simp only [chars, List.cons_append, List.mem_cons, List.mem_append, List.not_mem_nil,
      or_false] at hc
    rcases hc with rfl | hc | rfl
    · decide
    · rcases Url.mem_ipv6Text hc with rfl | hhex
      · decide
      · exact (plain_of_hex hhex).1
    · decide

variable {port : List Char}

theorem hostText_port (hport : ∀ c ∈ port.head?, c = ':') : Url.hostText false port = [] := by
  cases port with
  | nil => rfl
  | cons c rest =>
    obtain rfl := hport c rfl
    rfl

theorem hostText_outside (hport : ∀ c ∈ port.head?, c = ':')
    (htext : ∀ c ∈ text, c ≠ ':' ∧ c ≠ '[') : Url.hostText false (text ++ port) = text := by
  induction text with
  | nil => exact hostText_port hport
  | cons c text ih =>
    obtain ⟨⟨hcolon, hbracket⟩, htext⟩ := List.forall_mem_cons.mp htext
    rw [List.cons_append, Url.hostText, if_neg (by simp [hcolon]), if_neg hbracket, ite_self,
      ih htext]

theorem hostText_inside (hport : ∀ c ∈ port.head?, c = ':') (htext : ']' ∉ text) :
    Url.hostText true (text ++ ']' :: port) = text ++ [']'] := by
  induction text with
  | nil =>
    rw [List.nil_append, Url.hostText, if_neg (by simp), if_neg (by decide), if_pos rfl,
      hostText_port hport]
    rfl
  | cons c text ih =>
    rw [List.mem_cons, not_or] at htext
    rw [List.cons_append, Url.hostText, if_neg (by simp), if_neg (Ne.symm htext.1), ite_self,
      ih htext.2]
    rfl

theorem IsNormal.ends (hnormal : h.IsNormal) (hport : ∀ c ∈ port.head?, c = ':') :
    Url.hostText false (h.chars ++ port) = h.chars := by
  cases hnormal with
  | name settled plain nonempty named =>
    exact hostText_outside hport fun c hc => (plain_of_forbidden (plain c hc).1 (plain c hc).2).2
  | ipv4 fits =>
    refine hostText_outside hport fun c hc => ?_
    obtain ⟨hascii, hforbidden, -⟩ := Url.digit_plain (Url.mem_ipv4Text hc)
    exact (plain_of_forbidden hascii hforbidden).2
  | @ipv6 pieces eight fits =>
    have hclose : ']' ∉ Url.ipv6Text pieces := by
      intro hc
      rcases Url.mem_ipv6Text hc with hcolon | hhex
      · exact absurd hcolon (by decide)
      · exact (plain_of_hex hhex).2 rfl
    rw [chars, List.cons_append, List.cons_append, List.append_assoc, List.singleton_append,
      Url.hostText, if_neg (by decide), if_pos rfl, hostText_inside hport hclose]

end RestGateway.Host

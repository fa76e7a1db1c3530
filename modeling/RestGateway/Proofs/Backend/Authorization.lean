import Mathlib.Data.List.Infix
import Mathlib.Tactic.SplitIfs
import RestGateway.Backend.Credentials
import RestGateway.Proofs.Attempts
import RestGateway.Proofs.Text.Base64
import RestGateway.Proofs.Text.Split

/-!
# The grammar of authorization

Which headers give credentials, and which: the first value is cut at its first space into scheme and
payload, the payload decoded, and the decoded text cut at its first colon. What fails at one stage is
refused with the error of that stage, whatever comes after it.
-/

set_option autoImplicit false

namespace RestGateway

namespace Utf8

def chars (bs : List UInt8) : List Char := bs.map fun b => Char.ofNat b.toNat

theorem toNat_ofByte (b : UInt8) : (Char.ofNat b.toNat).toNat = b.toNat := by
  have hb := b.toNat_lt
  have hv : b.toNat.isValidChar := Or.inl (by omega)
  rw [Char.ofNat, dif_pos hv]
  rfl

theorem ofByte_inj {a b : UInt8} : Char.ofNat a.toNat = Char.ofNat b.toNat ↔ a = b := by
  constructor
  · intro h
    have hn := congrArg Char.toNat h
    rw [toNat_ofByte, toNat_ofByte] at hn
    exact UInt8.toNat_inj.mp hn
  · rintro rfl
    rfl

theorem chars_injective : Function.Injective chars :=
  List.map_injective_iff.mpr fun _ _ h => ofByte_inj.mp h

theorem mem_chars {b : UInt8} {bs : List UInt8} : Char.ofNat b.toNat ∈ chars bs ↔ b ∈ bs := by
  constructor
  · intro h
    obtain ⟨x, hx, he⟩ := List.mem_map.mp h
    rwa [← ofByte_inj.mp he]
  · exact List.mem_map_of_mem

theorem encode_chars {bs : List UInt8} (h : ∀ b ∈ bs, b < 0x80) : encode (chars bs) = bs := by
  induction bs with
  | nil => rfl
  | cons b bs ih =>
    obtain ⟨hb, hbs⟩ := List.forall_mem_cons.mp h
    have hn : b.toNat < 0x80 := UInt8.lt_iff_toNat_lt.mp hb
    have hc : String.utf8EncodeChar (Char.ofNat b.toNat) = [b] := by
      have hv : (Char.ofNat b.toNat).val.toNat = b.toNat := toNat_ofByte b
      rw [String.utf8EncodeChar]
      simp only [hv, if_pos (show b.toNat ≤ 0x7F by omega)]
      exact congrArg (fun x => [x]) UInt8.ofNat_toNat
    rw [chars, List.map_cons, encode_cons, hc]
    exact congrArg (b :: ·) (ih hbs)

end Utf8

theorem Base64.encode_text (bs : List UInt8) : ∀ b ∈ encode bs, 0x20 < b ∧ b ≤ 0x7A := by
  have hsymbol : ∀ n < 64, 0x20 < symbol n ∧ symbol n ≤ 0x7A := by decide
  have hpad : 0x20 < pad ∧ pad ≤ 0x7A := by decide
  induction bs using encode.induct with
  | case1 a b c rest ih =>
    obtain ⟨w, x, y, z, hw, hx, hy, hz, he, -⟩ := encode_three a b c rest
    rw [he]
    simp only [List.forall_mem_cons]
    exact ⟨hsymbol w hw, hsymbol x hx, hsymbol y hy, hsymbol z hz, ih⟩
  | case2 a b =>
    obtain ⟨x, y, z, hx, hy, hz, he, -⟩ := encode_two a b
    rw [he]
    simp only [List.forall_mem_cons]
    exact ⟨hsymbol x hx, hsymbol y hy, hsymbol z hz, hpad, List.forall_mem_nil _⟩
  | case3 a =>
    obtain ⟨x, y, hx, hy, he, -⟩ := encode_one a
    rw [he]
    simp only [List.forall_mem_cons]
    exact ⟨hsymbol x hx, hsymbol y hy, hpad, hpad, List.forall_mem_nil _⟩
  | case4 => exact List.forall_mem_nil _

namespace Authorization

def Textual (b : UInt8) : Prop := b = 0x09 ∨ (0x20 ≤ b ∧ b ≤ 0x7E)

theorem Textual.ascii {b : UInt8} (h : Textual b) : b < 0x80 := by
  rcases h with rfl | ⟨-, h⟩
  · decide
  · exact UInt8.lt_of_le_of_lt h (by decide)

theorem isText_iff {v : List UInt8} : isText v = true ↔ ∀ b ∈ v, Textual b := by
  rw [isText, List.all_eq_true]
  refine forall₂_congr fun b _ => ?_
  rw [Bool.or_eq_true, beq_iff_eq, Bool.and_eq_true, decide_eq_true_iff, decide_eq_true_iff,
    Textual, UInt8.lt_iff_toNat_lt (b := 0x7F), UInt8.le_iff_toNat_le (b := 0x7E)]
  exact or_congr_right (and_congr_right' Nat.lt_succ_iff)

/-- The first value is text that names a scheme: it is the scheme, the first space, the payload. -/
structure Presents (values : List (List UInt8)) (scheme payload : List UInt8) : Prop where
  first : values.head? = some (scheme ++ 0x20 :: payload)
  text : ∀ b ∈ scheme ++ 0x20 :: payload, Textual b
  cut : 0x20 ∉ scheme
  basic : Utf8.bytes "Basic" <+: scheme

/-- The first value does not do so: what is missing. -/
inductive Unknown (values : List (List UInt8)) : Prop where
  | value (h : values.head? = none)
  | text (v : List UInt8) (h : values.head? = some v) (b : UInt8) (hb : b ∈ v) (hn : ¬Textual b)
  | space (v : List UInt8) (h : values.head? = some v) (hs : 0x20 ∉ v)
  | scheme (s payload : List UInt8) (h : values.head? = some (s ++ 0x20 :: payload))
      (hs : 0x20 ∉ s) (hb : ¬Utf8.bytes "Basic" <+: s)

def given (scheme : List UInt8) (name secret : String) : Credentials :=
  if scheme = Utf8.bytes "Basic-User" then .user name secret else .script name secret

theorem space_char : ' ' = Char.ofNat (0x20 : UInt8).toNat := rfl

theorem split_chars {v scheme payload : List UInt8} (h : v = scheme ++ 0x20 :: payload)
    (hs : 0x20 ∉ scheme) :
    Text.splitOnce? ' ' (Utf8.chars v) = some (Utf8.chars scheme, Utf8.chars payload) := by
  rw [Text.splitOnce_iff, space_char, Utf8.mem_chars, h]
  exact ⟨List.map_append, hs⟩

theorem basic_chars (scheme : List UInt8) :
    schemeStart.isPrefixOf (Utf8.chars scheme) = true ↔ Utf8.bytes "Basic" <+: scheme := by
  have hstart : schemeStart = Utf8.chars (Utf8.bytes "Basic") := by decide
  rw [List.isPrefixOf_iff_prefix, hstart]
  exact List.prefix_map_iff_of_injective fun _ _ h => Utf8.ofByte_inj.mp h

theorem user_chars (scheme : List UInt8) :
    Utf8.chars scheme = userScheme ↔ scheme = Utf8.bytes "Basic-User" := by
  have huser : userScheme = Utf8.chars (Utf8.bytes "Basic-User") := by decide
  rw [huser]
  exact Utf8.chars_injective.eq_iff

theorem headerText_first {values : List (List UInt8)} {v : List UInt8}
    (h : values.head? = some v) (ht : ∀ b ∈ v, Textual b) : headerText values = Utf8.chars v := by
  obtain ⟨more, rfl⟩ := List.head?_eq_some_iff.mp h
  rw [headerText, if_pos (isText_iff.mpr ht)]
  rfl

theorem headerText_foreign {values : List (List UInt8)} {v : List UInt8}
    (h : values.head? = some v) (ht : ¬∀ b ∈ v, Textual b) : headerText values = [] := by
  obtain ⟨more, rfl⟩ := List.head?_eq_some_iff.mp h
  rw [headerText, if_neg (fun hv => ht (isText_iff.mp hv))]

theorem presents_or_unknown (values : List (List UInt8)) :
    (∃ scheme payload, Presents values scheme payload) ∨ Unknown values := by
  cases h : values.head? with
  | none => exact Or.inr (.value h)
  | some v =>
    by_cases ht : ∀ b ∈ v, Textual b
    · by_cases hs : 0x20 ∈ v
      · obtain ⟨scheme, payload, rfl, hcut⟩ := List.eq_append_cons_of_mem hs
        by_cases hb : Utf8.bytes "Basic" <+: scheme
        · exact Or.inl ⟨scheme, payload, h, ht, hcut, hb⟩
        · exact Or.inr (.scheme scheme payload h hcut hb)
      · exact Or.inr (.space v h hs)
    · push Not at ht
      obtain ⟨b, hb, hn⟩ := ht
      exact Or.inr (.text v h b hb hn)

theorem parse_unknown {values : List (List UInt8)} (h : Unknown values) :
    ∃ m, parse values = .error (.unauthorized m) := by
  have hnone : ∀ cs, headerText values = cs → ' ' ∉ cs →
      ∃ m, parse values = .error (.unauthorized m) := by
    rintro cs rfl hcs
    rw [parse, Text.splitOnce_none.mpr hcs]
    exact ⟨_, rfl⟩
  have hforeign : ∀ v, values.head? = some v → (¬∀ b ∈ v, Textual b) →
      ∃ m, parse values = .error (.unauthorized m) := fun v hv ht =>
    hnone [] (headerText_foreign hv ht) List.not_mem_nil
  cases h with
  | value h =>
    obtain rfl := List.head?_eq_none_iff.mp h
    exact hnone [] rfl List.not_mem_nil
  | text v h b hb hn => exact hforeign v h fun ht => hn (ht b hb)
  | space v h hs =>
    by_cases ht : ∀ b ∈ v, Textual b
    · refine hnone _ (headerText_first h ht) ?_
      rw [space_char, Utf8.mem_chars]
      exact hs
    · exact hforeign v h ht
  | scheme s payload h hs hb =>
    by_cases ht : ∀ b ∈ s ++ 0x20 :: payload, Textual b
    · rw [parse, headerText_first h ht, split_chars rfl hs]
      dsimp only
      rw [if_neg (fun hp => hb ((basic_chars s).mp hp))]
      exact ⟨_, rfl⟩
    · exact hforeign _ h ht

theorem decodePayload_iff {payload : List UInt8} (h : ∀ b ∈ payload, Textual b) {d : String} :
    decodePayload (Utf8.chars payload) = .ok d ↔
      ∃ bs, payload = Base64.encode bs ∧ Utf8.lossy bs = d := by
  rw [decodePayload, Utf8.encode_chars fun b hb => (h b hb).ascii]
  cases hd : Base64.decode payload with
  | ok bs =>
    obtain rfl := Base64.decode_iff.mp hd
    constructor
    · rintro ⟨⟩
      exact ⟨bs, rfl, rfl⟩
    · rintro ⟨bs', he, rfl⟩
      rw [Base64.encode_injective he]
  | error f =>
    constructor
    · rintro ⟨⟩
    · rintro ⟨bs, rfl, -⟩
      rw [Base64.decode_iff.mpr rfl] at hd
      cases hd

theorem decodePayload_badRequest {payload : List Char} {e : GatewayError}
    (h : decodePayload payload = .error e) : ∃ m, e = .badRequest m := by
  unfold decodePayload at h
  split at h <;> cases h
  exact ⟨_, rfl⟩

theorem nameAndSecret_iff {d name secret : String} :
    nameAndSecret d = .ok (name, secret) ↔ d = name ++ ":" ++ secret ∧ ':' ∉ name.toList := by
  have hparts : d = name ++ ":" ++ secret ↔ d.toList = name.toList ++ ':' :: secret.toList := by
    rw [← String.toList_inj]
    simp
  rw [hparts, ← Text.splitOnce_iff, nameAndSecret]
  cases Text.splitOnce? ':' d.toList with
  | none => simp
  | some parts =>
    obtain ⟨a, b⟩ := parts
    simp only [Except.ok.injEq, Prod.mk.injEq, Option.some.injEq, ← String.toList_inj,
      String.toList_ofList]

theorem nameAndSecret_forbidden {d : String} (h : ':' ∉ d.toList) :
    ∃ m, nameAndSecret d = .error (.forbidden m) := by
  rw [nameAndSecret, Text.splitOnce_none.mpr h]
  exact ⟨_, rfl⟩

theorem parse_presents {values : List (List UInt8)} {scheme payload : List UInt8}
    (h : Presents values scheme payload) :
    parse values = (decodePayload (Utf8.chars payload) >>= fun d =>
      nameAndSecret d >>= fun parts => .ok (given scheme parts.1 parts.2)) := by
  rw [parse, headerText_first h.first h.text, split_chars rfl h.cut]
  dsimp only
  rw [if_pos ((basic_chars scheme).mpr h.basic)]
  simp only [user_chars, given]

/-- The payload encodes a name and, after the first colon, a secret. -/
def Says (payload : List UInt8) (name secret : String) : Prop :=
  ∃ bs, payload = Base64.encode bs ∧ Utf8.lossy bs = name ++ ":" ++ secret ∧ ':' ∉ name.toList

theorem Says.unique {payload : List UInt8} {name secret name' secret' : String}
    (h : Says payload name secret) (h' : Says payload name' secret') :
    name = name' ∧ secret = secret' := by
  obtain ⟨bs, rfl, hd, hn⟩ := h
  obtain ⟨bs', he, hd', hn'⟩ := h'
  obtain rfl := Base64.encode_injective he
  have hsame := (nameAndSecret_iff.mpr ⟨hd, hn⟩).symm.trans (nameAndSecret_iff.mpr ⟨hd', hn'⟩)
  simpa using hsame

theorem Says.colon {bs : List UInt8} {name secret : String}
    (h : Says (Base64.encode bs) name secret) : ':' ∈ (Utf8.lossy bs).toList := by
  obtain ⟨bs', he, hd, -⟩ := h
  obtain rfl := Base64.encode_injective he
  rw [hd]
  simp

theorem says_encoded {name : String} (secret : String) (h : ':' ∉ name.toList) :
    Says (Base64.encode (Utf8.bytes (name ++ ":" ++ secret))) name secret :=
  ⟨_, rfl, Utf8.lossy_bytes _, h⟩

theorem payload_cases {values : List (List UInt8)} {scheme payload : List UInt8}
    (h : Presents values scheme payload) :
    ((∀ bs, payload ≠ Base64.encode bs) ∧ ∃ m, parse values = .error (.badRequest m)) ∨
    (∃ bs, payload = Base64.encode bs ∧ ':' ∉ (Utf8.lossy bs).toList ∧
      ∃ m, parse values = .error (.forbidden m)) ∨
    ∃ name secret, Says payload name secret ∧ parse values = .ok (given scheme name secret) := by
  have htext : ∀ b ∈ payload, Textual b := fun b hb =>
    h.text b (List.mem_append_right _ (List.mem_cons_of_mem _ hb))
  rw [parse_presents h]
  cases hd : decodePayload (Utf8.chars payload) with
  | error e =>
    obtain ⟨m, rfl⟩ := decodePayload_badRequest hd
    refine Or.inl ⟨?_, m, rfl⟩
    rintro bs rfl
    rw [(decodePayload_iff htext).mpr ⟨bs, rfl, rfl⟩] at hd
    cases hd
  | ok d =>
    obtain ⟨bs, hbs, rfl⟩ := (decodePayload_iff htext).mp hd
    refine Or.inr ?_
    rw [ok_bind]
    by_cases hcolon : ':' ∈ (Utf8.lossy bs).toList
    · obtain ⟨a, b, hab, ha⟩ := List.eq_append_cons_of_mem hcolon
      have hsplit : Utf8.lossy bs = String.ofList a ++ ":" ++ String.ofList b := by
        rw [← String.toList_inj, hab]
        simp
      have hname : ':' ∉ (String.ofList a).toList := by rwa [String.toList_ofList]
      refine Or.inr ⟨_, _, ⟨bs, hbs, hsplit, hname⟩, ?_⟩
      rw [nameAndSecret_iff.mpr ⟨hsplit, hname⟩, ok_bind]
    · obtain ⟨m, hm⟩ := nameAndSecret_forbidden hcolon
      exact Or.inl ⟨bs, hbs, hcolon, m, by rw [hm, error_bind]⟩

theorem Presents.not_unauthorized {values : List (List UInt8)} {scheme payload : List UInt8}
    (h : Presents values scheme payload) (m : String) :
    parse values ≠ .error (.unauthorized m) := by
  intro hm
  rcases payload_cases h with ⟨-, m', hp⟩ | ⟨bs, -, -, m', hp⟩ | ⟨name, secret, -, hp⟩ <;>
    cases hp.symm.trans hm

theorem Presents.not_unknown {values : List (List UInt8)} {scheme payload : List UInt8}
    (h : Presents values scheme payload) : ¬Unknown values := by
  intro hu
  obtain ⟨m, hm⟩ := parse_unknown hu
  exact h.not_unauthorized m hm

theorem parse_badRequest_iff {values : List (List UInt8)} {scheme payload : List UInt8}
    (h : Presents values scheme payload) :
    (∃ m, parse values = .error (.badRequest m)) ↔ ∀ bs, payload ≠ Base64.encode bs := by
  rcases payload_cases h with ⟨hne, hp⟩ | ⟨bs, rfl, -, m, hp⟩ | ⟨name, secret, ⟨bs, rfl, -⟩, hp⟩
  · exact iff_of_true hp hne
  · exact iff_of_false (fun ⟨_, hm⟩ => by cases hp.symm.trans hm) fun hne => hne bs rfl
  · exact iff_of_false (fun ⟨_, hm⟩ => by cases hp.symm.trans hm) fun hne => hne bs rfl

theorem parse_forbidden_iff {values : List (List UInt8)} {scheme payload : List UInt8}
    (h : Presents values scheme payload) :
    (∃ m, parse values = .error (.forbidden m)) ↔
      ∃ bs, payload = Base64.encode bs ∧ ':' ∉ (Utf8.lossy bs).toList := by
  rcases payload_cases h with ⟨hne, m, hp⟩ | ⟨bs, hbs, hcolon, hp⟩ | ⟨name, secret, hs, hp⟩
  · exact iff_of_false (fun ⟨_, hm⟩ => by cases hp.symm.trans hm) fun ⟨bs, hbs, _⟩ => hne bs hbs
  · exact iff_of_true hp ⟨bs, hbs, hcolon⟩
  · refine iff_of_false (fun ⟨_, hm⟩ => by cases hp.symm.trans hm) ?_
    rintro ⟨bs, rfl, hcolon⟩
    exact hcolon hs.colon

theorem parse_ok_iff {values : List (List UInt8)} {scheme payload : List UInt8}
    (h : Presents values scheme payload) {c : Credentials} :
    parse values = .ok c ↔
      ∃ name secret, Says payload name secret ∧ c = given scheme name secret := by
  rcases payload_cases h with ⟨hne, m, hp⟩ | ⟨bs, rfl, hcolon, m, hp⟩ | ⟨name, secret, hs, hp⟩
  · refine iff_of_false (fun hc => by cases hp.symm.trans hc) ?_
    rintro ⟨name, secret, ⟨bs, hbs, -⟩, -⟩
    exact hne bs hbs
  · refine iff_of_false (fun hc => by cases hp.symm.trans hc) ?_
    rintro ⟨name, secret, hs, -⟩
    exact hcolon hs.colon
  · rw [hp, Except.ok.injEq]
    constructor
    · rintro rfl
      exact ⟨name, secret, hs, rfl⟩
    · rintro ⟨name', secret', hs', rfl⟩
      obtain ⟨rfl, rfl⟩ := hs.unique hs'
      rfl

theorem presents_encoded {scheme : List UInt8} (ht : ∀ b ∈ scheme, Textual b) (hs : 0x20 ∉ scheme)
    (hb : Utf8.bytes "Basic" <+: scheme) (bs : List UInt8) (more : List (List UInt8)) :
    Presents ((scheme ++ 0x20 :: Base64.encode bs) :: more) scheme (Base64.encode bs) := by
  refine ⟨rfl, ?_, hs, hb⟩
  intro b hmem
  rcases List.mem_append.mp hmem with hmem | hmem
  · exact ht b hmem
  · rcases List.mem_cons.mp hmem with rfl | hmem
    · exact Or.inr (by decide)
    · obtain ⟨hlow, hhigh⟩ := Base64.encode_text bs b hmem
      exact Or.inr ⟨UInt8.le_of_lt hlow, UInt8.le_trans hhigh (by decide)⟩

/-- A request whose header names no scheme that starts with `Basic` is unauthorized. Under any other
header the payload decides, and every name without a colon is had with every secret. -/
theorem parse_grammar (values : List (List UInt8)) :
    ((∃ m, parse values = .error (.unauthorized m)) ↔ Unknown values) ∧
    (¬Unknown values ↔ ∃ scheme payload, Presents values scheme payload) ∧
    (∀ scheme payload, Presents values scheme payload →
      ((∃ m, parse values = .error (.badRequest m)) ↔ ∀ bs, payload ≠ Base64.encode bs) ∧
      ((∃ m, parse values = .error (.forbidden m)) ↔
        ∃ bs, payload = Base64.encode bs ∧ ':' ∉ (Utf8.lossy bs).toList) ∧
      ∀ c, parse values = .ok c ↔
        ∃ name secret, Says payload name secret ∧ c = given scheme name secret) ∧
    ∀ scheme : List UInt8, (∀ b ∈ scheme, Textual b) → 0x20 ∉ scheme →
      Utf8.bytes "Basic" <+: scheme → ∀ name secret : String, ':' ∉ name.toList →
        parse ((scheme ++ 0x20 :: Base64.encode (Utf8.bytes (name ++ ":" ++ secret))) :: values) =
          .ok (given scheme name secret) := by
  refine ⟨⟨?_, parse_unknown⟩, ⟨?_, ?_⟩, ?_, ?_⟩
  · rintro ⟨m, hm⟩
    rcases presents_or_unknown values with ⟨scheme, payload, h⟩ | h
    · exact absurd hm (h.not_unauthorized m)
    · exact h
  · exact (presents_or_unknown values).resolve_right
  · rintro ⟨scheme, payload, h⟩
    exact h.not_unknown
  · intro scheme payload h
    exact ⟨parse_badRequest_iff h, parse_forbidden_iff h, fun c => parse_ok_iff h⟩
  · intro scheme ht hs hb name secret hn
    rw [parse_ok_iff (presents_encoded ht hs hb _ values)]
    exact ⟨name, secret, says_encoded secret hn, rfl⟩

theorem parse_grammar_user :
    parse [Utf8.bytes "Basic-User amRvZTpwYTpzcw=="] = .ok (.user "jdoe" "pa:ss") := by
  have hpresents : Presents [Utf8.bytes "Basic-User amRvZTpwYTpzcw=="] (Utf8.bytes "Basic-User")
      (Utf8.bytes "amRvZTpwYTpzcw==") := by
    refine ⟨by decide, ?_, by decide, by decide⟩
    rw [← isText_iff]
    decide
  have hsays : Says (Utf8.bytes "amRvZTpwYTpzcw==") "jdoe" "pa:ss" :=
    ⟨Utf8.bytes "jdoe:pa:ss", by decide, Utf8.lossy_bytes _, by decide⟩
  obtain ⟨-, -, h, -⟩ := parse_grammar [Utf8.bytes "Basic-User amRvZTpwYTpzcw=="]
  exact ((h _ _ hpresents).2.2 _).mpr ⟨"jdoe", "pa:ss", hsays, by decide⟩

end Authorization

end RestGateway

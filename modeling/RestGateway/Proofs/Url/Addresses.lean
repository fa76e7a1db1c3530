import Mathlib.Algebra.Group.Nat.Defs
import Mathlib.Data.List.Induction
import RestGateway.Proofs.Attempts
import RestGateway.Proofs.Text.Ascii
import RestGateway.Proofs.Text.Split
import RestGateway.Url.Address

/-!
# Numeric hosts are read back

The text of an address stands for that address and for no other: the four bytes in decimal, or the
eight pieces in hexadecimal with two colons for the zeros left out.
-/

set_option autoImplicit false

namespace RestGateway.Url

theorem ofBase_append (base : Nat) (cs : List Char) (c : Char) :
    ofBase? base (cs ++ [c]) = (ofBase? base cs).bind fun n =>
      (Ascii.hexValue? c).bind fun d => if d < base then some (n * base + d) else none := by
  rw [ofBase?, List.foldl_append]
  rfl

theorem hexValue_digitChar : ∀ d < 16, Ascii.hexValue? (Nat.digitChar d) = some d := by decide

theorem ofBase_toDigits {base : Nat} (hone : 1 < base) (hle : base ≤ 16) (n : Nat) :
    ofBase? base (Nat.toDigits base n) = some n := by
  induction n using Nat.strongRecOn with
  | _ n ih =>
    have hd := Nat.mod_lt n (by omega : 0 < base)
    rw [Nat.toDigits_eq_if hone]
    split_ifs with h
    · simp [ofBase?, hexValue_digitChar n (by omega), h]
    · rw [ofBase_append, ih (n / base) (Nat.div_lt_self (by omega) hone),
        hexValue_digitChar (n % base) (by omega)]
      simp only [Option.bind_some, if_pos hd, Nat.div_add_mod']

theorem addressNumber_toDigits (n : Nat) : addressNumber? (Nat.toDigits 10 n) = some n := by
  rcases Nat.eq_zero_or_pos n with rfl | hn
  · rfl
  · rw [← ofBase_toDigits (by decide : 1 < 10) (by decide) n]
    unfold addressNumber?
    have hhead := toDigits_head n hn
    split
    · next h => exact absurd h Nat.toDigits_ne_nil
    · next h => exact absurd (h ▸ rfl) hhead
    · next h => exact absurd (h ▸ rfl) hhead
    · next h => exact absurd (h ▸ rfl) hhead
    · rfl

def byteText (n k : Nat) : List Char := Nat.toDigits 10 (n / Nat.pow 256 k % 256)

def byteTexts (n : Nat) : List (List Char) :=
  [byteText n 3, byteText n 2, byteText n 1, byteText n 0]

theorem ipv4Text_eq (n : Nat) : ipv4Text n = ['.'].intercalate (byteTexts n) := by
  simp [ipv4Text, byteTexts, byteText]

theorem byteText_digits (n k : Nat) : ∀ c ∈ byteText n k, c.isDigit = true := toDigits_digit _

theorem addressParts_ipv4 (n : Nat) : addressParts (ipv4Text n) = byteTexts n := by
  have hsplit : Text.splitOn '.' (ipv4Text n) = byteTexts n := by
    refine Text.splitOn_iff.mpr ⟨by simp [byteTexts], ?_, (ipv4Text_eq n).symm⟩
    intro part hpart hdot
    have hdigit : '.'.isDigit = true := by
      simp only [byteTexts, List.mem_cons, List.not_mem_nil, or_false] at hpart
      rcases hpart with rfl | rfl | rfl | rfl <;> exact byteText_digits n _ _ hdot
    exact absurd hdigit (by decide)
  have hlast : ¬(1 < (byteTexts n).length ∧ (byteTexts n).getLast? = some []) := by
    simp [byteTexts, byteText, Nat.toDigits_ne_nil]
  simp only [addressParts, hsplit, if_neg hlast]

theorem endsInNumber_ipv4 (n : Nat) : endsInNumber (ipv4Text n) = true := by
  simp [endsInNumber, addressParts_ipv4, byteTexts, byteText, addressNumber_toDigits]

theorem ipv4_ipv4Text {n : Nat} (hn : n < 2 ^ 32) : ipv4? (ipv4Text n) = some n := by
  simp only [ipv4?, addressParts_ipv4, byteTexts, byteText, List.mapM_cons, List.mapM_nil,
    addressNumber_toDigits, Option.pure_def, Option.bind_eq_bind, Option.bind_some]
  simp
  omega

theorem isHex_toDigits (n : Nat) : ∀ c ∈ Nat.toDigits 16 n, isHex c = true := by
  induction n using Nat.strongRecOn with
  | _ n ih =>
    have hdigit : ∀ d < 16, isHex (Nat.digitChar d) = true := by decide
    rw [Nat.toDigits_eq_if (by decide)]
    intro c hc
    split_ifs at hc with h
    · rw [List.mem_singleton.mp hc]
      exact hdigit n h
    · rcases List.mem_append.mp hc with hc | hc
      · exact ih (n / 16) (by omega) c hc
      · rw [List.mem_singleton.mp hc]
        exact hdigit _ (Nat.mod_lt n (by decide))

variable {p : Pieces} {fuel x : Nat} {pieces : List Nat} {rest : List Char}

theorem readPieces_digits (hlength : p.found.length < 8) (hx : x < 65536)
    (hrest : rest = [] ∨ ∃ d more, rest = ':' :: d :: more) :
    readPieces (fuel + 1) p (Nat.toDigits 16 x ++ rest) =
      readPieces fuel ⟨x :: p.found, p.gap⟩ rest.tail := by
  have hhex := isHex_toDigits x
  have htake : (Nat.toDigits 16 x ++ rest).takeWhile isHex = Nat.toDigits 16 x := by
    refine Text.takeWhile_iff.mpr ⟨rest, rfl, hhex, ?_⟩
    rcases hrest with rfl | ⟨d, more, rfl⟩
    · simp
    · simp only [List.head?_cons, Option.mem_some_iff, forall_eq']
      decide
  have hsize : (Nat.toDigits 16 x).length ≤ 4 :=
    (Nat.length_toDigits_le_iff (by decide) (by decide)).mpr hx
  have hread := ofBase_toDigits (by decide : 1 < 16) (by decide) x
  obtain ⟨c, cs, hcs⟩ := List.exists_cons_of_ne_nil (Nat.toDigits_ne_nil (n := x) (b := 16))
  rw [hcs] at htake hsize hhex hread ⊢
  have hcolon : c ≠ ':' := by
    rintro rfl
    exact absurd (hhex ':' List.mem_cons_self) (by decide)
  rw [List.cons_append] at htake ⊢
  have hdrop : (c :: (cs ++ rest)).drop (c :: cs).length = rest := List.drop_left
  rw [readPieces, if_neg (by omega), if_neg hcolon, htake, List.take_of_length_le hsize]
  simp only [hdrop, hread, List.isEmpty_cons, Option.getD_some]
  rcases hrest with rfl | ⟨d, more, rfl⟩
  · cases fuel <;> rfl
  · rfl

theorem readPieces_gap (hlength : p.found.length < 8) (hgap : p.gap = none) :
    readPieces (fuel + 1) p (':' :: rest) =
      readPieces fuel ⟨0 :: p.found, some (p.found.length + 1)⟩ rest := by
  rw [readPieces, if_neg (by omega), if_pos rfl, hgap]
  rfl

theorem hexPieces_cons (x y : Nat) (pieces : List Nat) :
    hexPieces (x :: y :: pieces) = Nat.toDigits 16 x ++ ':' :: hexPieces (y :: pieces) := by
  simp [hexPieces]

theorem hexPieces_head (x : Nat) (pieces : List Nat) :
    ∃ c cs, hexPieces (x :: pieces) = c :: cs ∧ isHex c = true := by
  obtain ⟨c, cs, hcs⟩ := List.exists_cons_of_ne_nil (Nat.toDigits_ne_nil (n := x) (b := 16))
  have hc : isHex c = true := isHex_toDigits x c (by rw [hcs]; exact List.mem_cons_self)
  cases pieces with
  | nil => exact ⟨c, cs, by simp [hexPieces, hcs], hc⟩
  | cons y pieces =>
    refine ⟨c, cs ++ ':' :: hexPieces (y :: pieces), ?_, hc⟩
    rw [hexPieces_cons, hcs]
    rfl

theorem readPieces_nil (fuel : Nat) (p : Pieces) : readPieces fuel p [] = some p := by
  cases fuel <;> rfl

theorem readPieces_hexPieces (hlength : p.found.length + pieces.length ≤ 8) (hne : pieces ≠ [])
    (hpieces : ∀ x ∈ pieces, x < 65536) (hrest : rest = [] ∨ ∃ d more, rest = ':' :: d :: more)
    (hfuel : (hexPieces pieces ++ rest).length ≤ fuel) :
    ∃ left, rest.tail.length ≤ left ∧ readPieces fuel p (hexPieces pieces ++ rest) =
      readPieces left ⟨pieces.reverse ++ p.found, p.gap⟩ rest.tail := by
  induction pieces generalizing p fuel with
  | nil => exact absurd rfl hne
  | cons x pieces ih =>
    obtain ⟨hx, hpieces⟩ := List.forall_mem_cons.mp hpieces
    rw [List.length_cons] at hlength
    have hdigits := List.length_pos_of_ne_nil (Nat.toDigits_ne_nil (n := x) (b := 16))
    cases pieces with
    | nil =>
      have htext : hexPieces [x] = Nat.toDigits 16 x := by simp [hexPieces]
      rw [htext, List.length_append] at hfuel
      obtain ⟨left, rfl⟩ := Nat.exists_eq_succ_of_ne_zero (by omega : fuel ≠ 0)
      refine ⟨left, by rw [List.length_tail]; omega, ?_⟩
      rw [htext, readPieces_digits (by omega) hx hrest]
      rfl
    | cons y pieces =>
      rw [hexPieces_cons, List.append_assoc, List.length_append, List.cons_append,
        List.length_cons] at hfuel
      obtain ⟨fuel, rfl⟩ := Nat.exists_eq_succ_of_ne_zero (by omega : fuel ≠ 0)
      obtain ⟨c, cs, hcs, -⟩ := hexPieces_head y pieces
      have hcolon : ∃ d more, ':' :: (hexPieces (y :: pieces) ++ rest) = ':' :: d :: more :=
        ⟨c, cs ++ rest, by rw [hcs]; rfl⟩
      obtain ⟨left, hleft, hread⟩ := @ih ⟨x :: p.found, p.gap⟩ fuel
        (by simp only [List.length_cons] at hlength ⊢; omega) (List.cons_ne_nil _ _) hpieces
        (by omega)
      refine ⟨left, hleft, ?_⟩
      rw [hexPieces_cons, List.append_assoc, List.cons_append,
        readPieces_digits (by simp only [List.length_cons] at hlength; omega) hx (.inr hcolon),
        List.tail_cons, hread]
      simp

theorem readPieces_all (hlength : p.found.length + pieces.length ≤ 8)
    (hpieces : ∀ x ∈ pieces, x < 65536) (hfuel : (hexPieces pieces).length ≤ fuel) :
    readPieces fuel p (hexPieces pieces) = some ⟨pieces.reverse ++ p.found, p.gap⟩ := by
  by_cases hne : pieces = []
  · subst hne
    exact readPieces_nil fuel p
  · have hfull : (hexPieces pieces ++ []).length ≤ fuel := by rwa [List.append_nil]
    obtain ⟨left, -, hread⟩ := readPieces_hexPieces hlength hne hpieces (.inl rfl) hfull
    rwa [List.append_nil, List.tail_nil, readPieces_nil] at hread

theorem hexPieces_start (hne : pieces ≠ []) (rest cs : List Char) :
    hexPieces pieces ++ rest ≠ ':' :: cs := by
  intro hcs
  obtain ⟨x, more, rfl⟩ := List.exists_cons_of_ne_nil hne
  obtain ⟨c, tail, hc, hhex⟩ := hexPieces_head x more
  rw [hc] at hcs
  obtain ⟨rfl, -⟩ := List.cons.inj hcs
  exact absurd hhex (by decide)

theorem ipv6_hexPieces (hlength : pieces.length = 8) (hpieces : ∀ x ∈ pieces, x < 65536) :
    ipv6? (hexPieces pieces) = some pieces := by
  have hne : pieces ≠ [] := by
    rintro rfl
    cases hlength
  have hread := @readPieces_all ⟨[], none⟩ _ pieces (by simp [hlength]) hpieces le_rfl
  have hstart := hexPieces_start hne []
  rw [List.append_nil] at hstart
  unfold ipv6?
  split
  · next h => exact absurd h (hstart _)
  · next h => exact absurd h (hstart _)
  · simp [hread, hlength]

theorem gap_filled {front back : List Nat} (hlength : front.length + back.length < 8) :
    let found := (back.reverse ++ 0 :: front.reverse).reverse
    found.take (front.length + 1) ++ List.replicate (8 - found.length) 0 ++
        found.drop (front.length + 1) =
      front ++ List.replicate (8 - (front.length + back.length)) 0 ++ back := by
  have hfound : (back.reverse ++ 0 :: front.reverse).reverse = (front ++ [0]) ++ back := by simp
  have hsize : front.length + 1 = (front ++ [0]).length := by simp
  have hzeros : 8 - (front.length + back.length) = 7 - (front.length + back.length) + 1 := by omega
  have hleft : 8 - ((front ++ [0]) ++ back).length = 7 - (front.length + back.length) := by
    simp only [List.length_append, List.length_singleton]
    omega
  simp only [hfound, hleft]
  rw [hsize, List.take_left, List.drop_left, hzeros, List.replicate_succ]
  simp

theorem ipv6_gap {front back : List Nat} (hlength : front.length + back.length < 8)
    (hfront : ∀ x ∈ front, x < 65536) (hback : ∀ x ∈ back, x < 65536) :
    ipv6? (hexPieces front ++ ':' :: ':' :: hexPieces back) =
      some (front ++ List.replicate (8 - (front.length + back.length)) 0 ++ back) := by
  have hlast (left : Nat) (hleft : (hexPieces back).length ≤ left) :
      readPieces left ⟨0 :: front.reverse, some (front.length + 1)⟩ (hexPieces back) =
        some ⟨back.reverse ++ 0 :: front.reverse, some (front.length + 1)⟩ := by
    refine readPieces_all ?_ hback hleft
    simp only [List.length_cons, List.length_reverse]
    omega
  rw [← gap_filled hlength]
  by_cases hne : front = []
  · subst hne
    have hread := hlast (':' :: ':' :: hexPieces back).length (by simp [Nat.add_assoc])
    have hnil : hexPieces [] ++ ':' :: ':' :: hexPieces back = ':' :: ':' :: hexPieces back := rfl
    rw [hnil]
    simp only [ipv6?, Option.bind_eq_bind, Option.bind_some]
    rw [List.reverse_nil, List.length_nil] at hread
    rw [hread]
    rfl
  · have hstart := hexPieces_start hne (':' :: ':' :: hexPieces back)
    obtain ⟨left, hleft, hread⟩ := @readPieces_hexPieces ⟨[], none⟩
      (hexPieces front ++ ':' :: ':' :: hexPieces back).length front (':' :: ':' :: hexPieces back)
      (by simp only [List.length_nil]; omega) hne hfront (.inr ⟨_, _, rfl⟩) le_rfl
    obtain ⟨left, rfl⟩ := Nat.exists_eq_succ_of_ne_zero (by
      rw [List.tail_cons, List.length_cons] at hleft
      omega : left ≠ 0)
    rw [List.tail_cons, List.append_nil, readPieces_gap (by simp; omega) rfl,
      List.length_reverse, hlast left (by simpa using hleft)] at hread
    unfold ipv6?
    split
    · next h => exact absurd h (hstart _)
    · next h => exact absurd h (hstart _)
    · simp only [Option.bind_eq_bind, Option.bind_some]
      rw [hread]
      rfl

theorem longestZeros_run (pieces : List Nat) : (longestZeros pieces).2 ≤
    ((pieces.drop (longestZeros pieces).1).takeWhile (· == 0)).length := by
  refine List.foldlRecOn (motive := fun best : Nat × Nat =>
    best.2 ≤ ((pieces.drop best.1).takeWhile (· == 0)).length) _ _ (Nat.zero_le _) ?_
  intro best hbest i _
  dsimp only
  split_ifs
  · exact le_rfl
  · exact hbest

theorem longestZeros_split (pieces : List Nat) :
    let (start, size) := longestZeros pieces
    pieces = pieces.take start ++ List.replicate size 0 ++ pieces.drop (start + size) := by
  have hrun := longestZeros_run pieces
  generalize longestZeros pieces = run at hrun ⊢
  obtain ⟨start, size⟩ := run
  dsimp only at hrun ⊢
  have hzeros : (pieces.drop start).take size = List.replicate size 0 := by
    have hcut : (pieces.drop start).take size =
        ((pieces.drop start).takeWhile (· == 0)).take size := by
      conv_lhs => rw [← List.takeWhile_append_dropWhile (p := (· == 0)) (l := pieces.drop start)]
      exact List.take_append_of_le_length hrun
    rw [hcut, List.eq_replicate_iff]
    refine ⟨List.length_take_of_le hrun, fun x hx => ?_⟩
    simpa using List.mem_takeWhile_imp (List.mem_of_mem_take hx)
  rw [List.append_assoc, ← hzeros, ← List.drop_drop, List.take_append_drop, List.take_append_drop]

/-- The text of an address of eight pieces is read as that address. -/
theorem ipv6_ipv6Text (hlength : pieces.length = 8) (hpieces : ∀ x ∈ pieces, x < 65536) :
    ipv6? (ipv6Text pieces) = some pieces := by
  have hsplit := longestZeros_split pieces
  unfold ipv6Text
  generalize longestZeros pieces = run at hsplit ⊢
  obtain ⟨start, size⟩ := run
  dsimp only at hsplit ⊢
  split_ifs with hsize
  · exact ipv6_hexPieces hlength hpieces
  · have hlengths := congrArg List.length hsplit
    simp only [List.length_append, List.length_replicate, hlength] at hlengths
    rw [ipv6_gap (by omega) (fun x hx => hpieces x (List.mem_of_mem_take hx))
      (fun x hx => hpieces x (List.mem_of_mem_drop hx))]
    have hcount : 8 - ((pieces.take start).length + (pieces.drop (start + size)).length) = size := by
      omega
    rw [hcount, ← hsplit]

/-- Pieces that were read: at most eight, each of sixteen bits. -/
def Pieces.Fit (p : Pieces) : Prop := p.found.length ≤ 8 ∧ ∀ x ∈ p.found, x < 65536

theorem Pieces.Fit.add {p : Pieces} {ps : List Nat} {gap : Option Nat} (h : p.Fit)
    (hps : ∀ x ∈ ps, x < 65536) (hlength : ps.length + p.found.length ≤ 8) :
    Pieces.Fit ⟨ps ++ p.found, gap⟩ := by
  refine ⟨by rw [List.length_append]; exact hlength, fun x hx => ?_⟩
  rcases List.mem_append.mp hx with hx | hx
  · exact hps x hx
  · exact h.2 x hx

theorem Pieces.Fit.cons {p : Pieces} {x : Nat} {gap : Option Nat} (h : p.Fit) (hx : x < 65536)
    (hlength : ¬ 8 ≤ p.found.length) : Pieces.Fit ⟨x :: p.found, gap⟩ := by
  have hone : ∀ y ∈ [x], y < 65536 := List.forall_mem_singleton.mpr hx
  refine h.add hone ?_
  rw [List.length_singleton]
  omega

theorem mem_ipv4Text {n : Nat} {c : Char} (h : c ∈ ipv4Text n) : c = '.' ∨ c.isDigit = true := by
  rw [ipv4Text_eq] at h
  obtain h | ⟨part, hpart, hc⟩ := Text.mem_intercalate h
  · exact .inl h
  · simp only [byteTexts, List.mem_cons, List.not_mem_nil, or_false] at hpart
    rcases hpart with rfl | rfl | rfl | rfl <;> exact .inr (byteText_digits n _ c hc)

theorem mem_hexPieces {c : Char} (h : c ∈ hexPieces pieces) : c = ':' ∨ isHex c = true := by
  obtain h | ⟨part, hpart, hc⟩ := Text.mem_intercalate h
  · exact .inl h
  · obtain ⟨x, -, rfl⟩ := List.mem_map.mp hpart
    exact .inr (isHex_toDigits x c hc)

theorem mem_ipv6Text {c : Char} (h : c ∈ ipv6Text pieces) : c = ':' ∨ isHex c = true := by
  unfold ipv6Text at h
  dsimp only at h
  split_ifs at h
  · exact mem_hexPieces h
  · simp only [List.mem_append, List.mem_cons] at h
    rcases h with h | h | h | h
    · exact mem_hexPieces h
    · exact .inl h
    · exact .inl h
    · exact mem_hexPieces h

end RestGateway.Url

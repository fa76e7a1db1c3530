import RestGateway.Proofs.Json.Grammar
import RestGateway.Proofs.Json.Numbers
import RestGateway.Proofs.Json.Values

/-!
# Readers settle well-formed text

A well-formed text is settled: whatever follows it and however many levels more are allowed, the
same is read and what follows is left, or nothing is ever read.
-/

set_option autoImplicit false

namespace RestGateway.Json.Grammar
open Reader

variable {α β : Type}

/-- What `P` finds at the front of `t` and whatever follows, where `n` levels are allowed at
least. -/
def Settled (P : Nat → List UInt8 → α → List UInt8 → Prop) (n : Nat) (t : List UInt8) : Prop :=
  ∃ o : Option α, ∀ depth s, n ≤ depth → Boundary s → ∀ a rest,
    P depth (t ++ s) a rest ↔ o = some a ∧ rest = s

def Finds (r : Nat → Reader α) (depth : Nat) (bs : List UInt8) (a : α) (rest : List UInt8) : Prop :=
  r depth bs = .ok (a, rest)

variable {P : Nat → List UInt8 → α → List UInt8 → Prop}
variable {Q : Nat → List UInt8 → β → List UInt8 → Prop}

theorem settled_one {n : Nat} {t : List UInt8} (a : α)
    (h : ∀ depth s, n ≤ depth → Boundary s → ∀ b rest,
      P depth (t ++ s) b rest ↔ b = a ∧ rest = s) : Settled P n t := by
  refine ⟨some a, fun depth s hd hs b rest => ?_⟩
  rw [h depth s hd hs, Option.some.injEq, eq_comm (a := a)]

theorem settled_ok {r : Nat → Reader α} {n : Nat} {t : List UInt8} (a : α)
    (h : ∀ depth s, n ≤ depth → Boundary s → r depth (t ++ s) = .ok (a, s)) :
    Settled (Finds r) n t := by
  apply settled_one a
  intro depth s hd hs b rest
  rw [Finds, h depth s hd hs]
  simp [eq_comm]

theorem settled_never {n : Nat} {t : List UInt8}
    (h : ∀ depth s, n ≤ depth → Boundary s → ∀ a rest, ¬P depth (t ++ s) a rest) :
    Settled P n t := by
  refine ⟨none, fun depth s hd hs a rest => ?_⟩
  simpa using h depth s hd hs a rest

theorem settled_map {m n : Nat} {t u : List UInt8} (f : α → β) (ht : Settled P n t)
    (h : ∀ depth, m ≤ depth → ∃ inner, n ≤ inner ∧ ∀ s, Boundary s → ∀ b rest,
      Q depth (u ++ s) b rest ↔ ∃ a, b = f a ∧ P inner (t ++ s) a rest) :
    Settled Q m u := by
  obtain ⟨o, ho⟩ := ht
  refine ⟨o.map f, fun depth s hd hs b rest => ?_⟩
  obtain ⟨inner, hi, hq⟩ := h depth hd
  rw [hq s hs]
  simp only [ho inner s hi hs, Option.map_eq_some_iff]
  constructor
  · rintro ⟨a, rfl, ha, hr⟩
    exact ⟨⟨a, ha, rfl⟩, hr⟩
  · rintro ⟨⟨a, ha, rfl⟩, hr⟩
    exact ⟨a, rfl, ha, hr⟩

theorem settled_eq {q r : Nat → Reader α} {n : Nat} {t u : List UInt8}
    (ht : Settled (Finds q) n t)
    (h : ∀ depth s, Boundary s → r depth (u ++ s) = q depth (t ++ s)) :
    Settled (Finds r) n u := by
  refine settled_map id ht fun depth hd => ⟨depth, hd, fun s hs b rest => ?_⟩
  simp [Finds, h depth s hs]

theorem settled_then {n : Nat} {t u : List UInt8} (ht : Settled P n t) (hu : Settled Q n u)
    (hb : ∀ s, Boundary (u ++ s)) :
    Settled (fun depth bs (p : α × β) rest =>
      ∃ more, P depth bs p.1 more ∧ Q depth more p.2 rest) n (t ++ u) := by
  obtain ⟨o, ho⟩ := ht
  obtain ⟨o', ho'⟩ := hu
  refine ⟨o.bind fun a => o'.map fun b => (a, b), fun depth s hd hs p rest => ?_⟩
  obtain ⟨a, b⟩ := p
  simp only [List.append_assoc, ho depth _ hd (hb s)]
  constructor
  · rintro ⟨more, ⟨rfl, rfl⟩, hq⟩
    obtain ⟨rfl, rfl⟩ := (ho' depth s hd hs b rest).mp hq
    exact ⟨rfl, rfl⟩
  · rintro ⟨hab, rfl⟩
    cases o with
    | none => cases hab
    | some a' =>
      cases o' with
      | none => cases hab
      | some b' =>
        cases hab
        exact ⟨u ++ rest, ⟨rfl, rfl⟩, (ho' depth rest hd hs b rest).mpr ⟨rfl, rfl⟩⟩

section Numbers
variable (negative : Bool) (significand : Nat)

theorem float_settled (e : Int) : Settled (Finds fun _ => float negative significand e) 0 [] := by
  unfold float
  cases scale 4 (UInt64.ofNat significand).toFloat e with
  | none =>
    apply settled_never
    intro depth s hd hs a rest h
    cases h
  | some x =>
    apply settled_ok (.float (if negative then -x else x))
    intro depth s hd hs
    rfl

theorem exponentDigits_settled (start : Int) (down : Bool) (n : Nat) (ds : List UInt8)
    (hd : ∀ d ∈ ds, isDigit d = true) :
    Settled (Finds fun _ => exponentDigits negative significand start down n) 0 ds := by
  induction ds generalizing n with
  | nil =>
    let e : Int := if down then start - n else start + n
    apply settled_eq (float_settled negative significand e)
    intro depth s hs
    cases s with
    | nil => rfl
    | cons b s =>
      have hb := (hs b rfl).1
      simp only [List.nil_append, exponentDigits, hb]
      rfl
  | cons d ds ih =>
    have h0 := hd d (by simp)
    have hds : ∀ x ∈ ds, isDigit x = true := fun x hx => hd x (by simp [hx])
    by_cases hn : n * 10 + (d.toNat - 0x30) < 0x80000000
    · apply settled_eq (ih (n * 10 + (d.toNat - 0x30)) hds)
      intro depth s hs
      simp only [List.cons_append, exponentDigits, h0, if_true, if_pos hn]
    · by_cases hz : significand = 0 ∨ down = true
      · apply settled_ok (zero negative)
        intro depth s _ hs
        have hdrop := dropWhile_digits ds s hds fun b hb => (hs b hb).1
        simp only [List.cons_append, exponentDigits, h0, if_true, if_neg hn, if_pos hz, hdrop]
      · apply settled_never
        intro depth s _ hs a rest h
        simp only [Finds, List.cons_append, exponentDigits, h0, if_true, if_neg hn, if_neg hz] at h
        cases h

theorem exponentSign_digit (sign ds : List UInt8) (hs : sign ∈ [[], [0x2B], [0x2D]])
    (hd : ∀ d ∈ ds.head?, isDigit d = true) :
    exponentSign (sign ++ ds) = (decide (sign = [0x2D]), ds) := by
  simp only [List.mem_cons, List.not_mem_nil, or_false] at hs
  rcases hs with rfl | rfl | rfl
  · cases ds with
    | nil => rfl
    | cons d ds =>
      have h := hd d rfl
      have hp : d ≠ 0x2B := by
        rintro rfl
        cases h
      have hm : d ≠ 0x2D := by
        rintro rfl
        cases h
      simp [exponentSign, hp, hm]
  · rfl
  · rfl

theorem exponent_settled (start : Int) (sign ds : List UInt8)
    (hs : sign ∈ [[], [0x2B], [0x2D]]) (hd : Digits ds) :
    Settled (Finds fun _ => exponent negative significand start) 0 (sign ++ ds) := by
  obtain ⟨d, ds, rfl⟩ := List.exists_cons_of_ne_nil hd.1
  have h0 : isDigit d = true := hd.2 d (by simp)
  have hds : ∀ x ∈ ds, isDigit x = true := fun x hx => hd.2 x (by simp [hx])
  apply settled_eq (exponentDigits_settled negative significand start (decide (sign = [0x2D]))
    (d.toNat - 0x30) ds hds)
  intro depth s _
  have he := exponentSign_digit sign (d :: (ds ++ s)) hs (by simpa using h0)
  rw [List.append_assoc, List.cons_append, exponent, he]
  simp only [h0, if_true]

theorem mark_stops (b : UInt8) (h : isExponentMark b = true) :
    isDigit b = false ∧ b ≠ 0x2E := by
  simp only [isExponentMark, Bool.or_eq_true, beq_iff_eq] at h
  rcases h with rfl | rfl <;> decide

theorem fraction_settled (dropped : Nat) (ds e : List UInt8) (hd : Digits ds) (he : Exponent e) :
    Settled (Finds fun _ => fraction negative significand dropped) 0 (ds ++ e) := by
  let start : Int := (dropped : Int) - (gather significand 0 ds).2
  have hne : ds.isEmpty = false := by simpa using hd.1
  cases he with
  | none =>
    apply settled_eq (float_settled negative (gather significand 0 ds).1 start)
    intro depth s hs
    have hstop : ∀ b ∈ s.head?, isDigit b = false := fun b hb => (hs b hb).1
    rw [fraction, List.append_nil, takeWhile_digits ds s hd.2 hstop,
      dropWhile_digits ds s hd.2 hstop]
    cases s with
    | nil => simp [hne, start]
    | cons b s => simp [hne, (hs b rfl).2.2, start]
  | @some mark sign ds' hm hsign hd' =>
    apply settled_eq (exponent_settled negative (gather significand 0 ds).1 start sign ds' hsign
      hd')
    intro depth s _
    have hstop : ∀ b ∈ (mark :: (sign ++ ds' ++ s)).head?, isDigit b = false := by
      simpa using (mark_stops mark hm).1
    rw [fraction, List.append_assoc, List.cons_append, takeWhile_digits ds _ hd.2 hstop,
      dropWhile_digits ds _ hd.2 hstop]
    simp [hne, hm, start]

theorem tail_stops {t s : List UInt8} (ht : Tail t) (hs : Boundary s) :
    ∀ b ∈ (t ++ s).head?, isDigit b = false := by
  intro b hb
  cases ht with
  | plain he =>
    cases he with
    | none => exact (hs b hb).1
    | some hm _ _ =>
      cases hb
      exact (mark_stops _ hm).1
  | point =>
    cases hb
    decide

theorem afterInteger_settled (dropped : Nat) (t : List UInt8) (ht : Tail t) :
    Settled (Finds fun _ => afterInteger negative significand dropped) 0 t := by
  cases ht with
  | plain he =>
    cases he with
    | none =>
      by_cases h0 : dropped = 0
      · apply settled_ok (integer negative significand)
        intro depth s _ hs
        rw [h0]
        exact afterInteger_end negative significand s hs
      · apply settled_eq (float_settled negative significand dropped)
        intro depth s hs
        cases s with
        | nil => simp [afterInteger, h0]
        | cons b s =>
          obtain ⟨-, hp, he⟩ := hs b rfl
          simp [afterInteger, h0, hp, he]
    | @some mark sign ds hm hsign hd =>
      apply settled_eq (exponent_settled negative significand dropped sign ds hsign hd)
      intro depth s _
      simp [afterInteger, hm, (mark_stops mark hm).2]
  | point hd he =>
    apply settled_eq (fraction_settled negative significand dropped _ _ hd he)
    intro depth s _
    rfl

theorem number_settled (t : List UInt8) (ht : Numeral t) :
    Settled (Finds fun _ => Reader.number negative) 0 t := by
  obtain ⟨hw, htail⟩ := ht
  next ds tail =>
    obtain ⟨d, ds, rfl⟩ := List.exists_cons_of_ne_nil hw.1.1
    by_cases h0 : d = 0x30
    · subst h0
      obtain rfl : ds = [] := by simpa using hw.2 rfl
      apply settled_eq (afterInteger_settled negative 0 0 tail htail)
      intro depth s hs
      have hstop := tail_stops htail hs
      rw [List.cons_append, List.nil_append, List.cons_append]
      cases hts : tail ++ s with
      | nil => rfl
      | cons c cs =>
        have hc : isDigit c = false := hstop c (by simp [hts])
        simp [Reader.number, hc]
    · have hd : isDigit d = true := hw.1.2 d (by simp)
      let g := gather 0 0 (d :: ds)
      apply settled_eq (afterInteger_settled negative g.1 ((d :: ds).length - g.2) tail htail)
      intro depth s hs
      have htake := takeWhile_digits (d :: ds) _ hw.1.2 (tail_stops htail hs)
      have hdrop := dropWhile_digits (d :: ds) _ hw.1.2 (tail_stops htail hs)
      rw [List.append_assoc]
      rw [List.cons_append] at htake hdrop ⊢
      simp only [Reader.number, if_neg h0, hd, if_true, htake, hdrop]
      rfl

end Numbers

/-- Before a closing quote `r` takes one character and leaves no longer a body, or it always
fails. -/
def OneChar (r : Reader Char) (t : List UInt8) : Prop :=
  (∃ c t', Body t' ∧ t'.length ≤ t.length ∧
    ∀ s, r (t ++ 0x22 :: s) = .ok (c, t' ++ 0x22 :: s)) ∨
  ∀ s, ∃ e, r (t ++ 0x22 :: s) = .error e

theorem hexQuad_ok (a b c d : UInt8) (h : ∀ x ∈ [a, b, c, d], (hexDigit? x).isSome = true) :
    ∃ n, ∀ s, hexQuad (a :: b :: c :: d :: s) = .ok (n, s) := by
  obtain ⟨w, hw⟩ := Option.isSome_iff_exists.mp (h a (by simp))
  obtain ⟨x, hx⟩ := Option.isSome_iff_exists.mp (h b (by simp))
  obtain ⟨y, hy⟩ := Option.isSome_iff_exists.mp (h c (by simp))
  obtain ⟨z, hz⟩ := Option.isSome_iff_exists.mp (h d (by simp))
  exact ⟨((w * 16 + x) * 16 + y) * 16 + z, fun s => by simp only [hexQuad, hw, hx, hy, hz]⟩

def secondHalf (n : Nat) : Reader Char := do
  pairMark 0x5C
  pairMark 0x75
  let m ← hexQuad
  if 0xDC00 ≤ m ∧ m ≤ 0xDFFF then
    pure (Char.ofNat (0x10000 + (n - 0xD800) * 0x400 + (m - 0xDC00)))
  else fail .loneSurrogate

theorem pairMark_same (b : UInt8) (s : List UInt8) : pairMark b (b :: s) = .ok ((), s) := by
  simp [pairMark]

theorem pairMark_other (b x : UInt8) (s : List UInt8) (h : x ≠ b) :
    pairMark b (x :: s) = .error ⟨.cutSurrogate, s, false, 0⟩ := by
  simp [pairMark, h]

theorem secondHalf_one (n : Nat) (t : List UInt8) (ht : Body t) : OneChar (secondHalf n) t := by
  cases ht with
  | done =>
    refine Or.inr fun s => ⟨_, bind_error _ (pairMark_other 0x5C 0x22 s (by decide))⟩
  | plain hb _ =>
    refine Or.inr fun s => ⟨_, bind_error _ (pairMark_other 0x5C _ _ hb.2.2)⟩
  | @short b t hb _ =>
    have hu : b ≠ 0x75 := by
      rintro rfl
      cases hb
    refine Or.inr fun s => ⟨⟨.cutSurrogate, t ++ 0x22 :: s, false, 0⟩, ?_⟩
    rw [secondHalf, List.cons_append, bind_ok _ (pairMark_same 0x5C _)]
    exact bind_error _ (pairMark_other 0x75 b _ hu)
  | @unicode a b c d t hx ht =>
    obtain ⟨m, hm⟩ := hexQuad_ok a b c d hx
    have hs (s : List UInt8) : secondHalf n (0x5C :: 0x75 :: a :: b :: c :: d :: t ++ 0x22 :: s) =
        (if 0xDC00 ≤ m ∧ m ≤ 0xDFFF then
          pure (Char.ofNat (0x10000 + (n - 0xD800) * 0x400 + (m - 0xDC00)))
        else fail .loneSurrogate : Reader Char) (t ++ 0x22 :: s) := by
      simp only [secondHalf, List.cons_append]
      rw [bind_ok _ (pairMark_same 0x5C _), bind_ok _ (pairMark_same 0x75 _), bind_ok _ (hm _)]
    by_cases hl : 0xDC00 ≤ m ∧ m ≤ 0xDFFF
    · let c : Char := Char.ofNat (0x10000 + (n - 0xD800) * 0x400 + (m - 0xDC00))
      refine Or.inl ⟨c, t, ht, by simp only [List.length_cons]; omega, fun s => ?_⟩
      rw [hs, if_pos hl, pure_apply]
    · refine Or.inr fun s => ⟨⟨.loneSurrogate, t ++ 0x22 :: s, false, 0⟩, ?_⟩
      rw [hs, if_neg hl, fail]

theorem unicodeEscape_one (a b c d : UInt8) (t : List UInt8)
    (hx : ∀ x ∈ [a, b, c, d], (hexDigit? x).isSome = true) (ht : Body t) :
    OneChar unicodeEscape (a :: b :: c :: d :: t) := by
  obtain ⟨n, hn⟩ := hexQuad_ok a b c d hx
  have hs (s : List UInt8) : unicodeEscape (a :: b :: c :: d :: t ++ 0x22 :: s) =
      (if 0xDC00 ≤ n ∧ n ≤ 0xDFFF then fail .loneSurrogate
      else if 0xD800 ≤ n ∧ n ≤ 0xDBFF then secondHalf n
      else pure (Char.ofNat n) : Reader Char) (t ++ 0x22 :: s) := by
    rw [unicodeEscape, List.cons_append, List.cons_append, List.cons_append, List.cons_append,
      bind_ok _ (hn _)]
    rfl
  by_cases hl : 0xDC00 ≤ n ∧ n ≤ 0xDFFF
  · refine Or.inr fun s => ⟨⟨.loneSurrogate, t ++ 0x22 :: s, false, 0⟩, ?_⟩
    rw [hs, if_pos hl, fail]
  · by_cases hh : 0xD800 ≤ n ∧ n ≤ 0xDBFF
    · rcases secondHalf_one n t ht with ⟨c', t', ht', hlen, h⟩ | h
      · refine Or.inl ⟨c', t', ht', by simp only [List.length_cons]; omega, fun s => ?_⟩
        rw [hs, if_neg hl, if_pos hh, h]
      · refine Or.inr fun s => ?_
        rw [hs, if_neg hl, if_pos hh]
        exact h s
    · refine Or.inl ⟨Char.ofNat n, t, ht, by simp only [List.length_cons]; omega, fun s => ?_⟩
      rw [hs, if_neg hl, if_neg hh, pure_apply]

theorem escape_unicode (rest : List UInt8) : Reader.escape (0x75 :: rest) = unicodeEscape rest := rfl

theorem escape_one {t : List UInt8} (h : Body (0x5C :: t)) : OneChar Reader.escape t := by
  cases h with
  | plain hb _ => exact absurd rfl hb.2.2
  | @short b t hb ht =>
    obtain ⟨c, hc⟩ := Option.isSome_iff_exists.mp hb
    refine Or.inl ⟨c, t, ht, by simp, fun s => ?_⟩
    exact escape_short b c _ hc
  | @unicode a b c d t hx ht =>
    rcases unicodeEscape_one a b c d t hx ht with ⟨c', t', ht', hlen, h⟩ | h
    · refine Or.inl ⟨c', t', ht', by simp only [List.length_cons] at hlen ⊢; omega, fun s => ?_⟩
      rw [List.cons_append, escape_unicode, h]
    · refine Or.inr fun s => ?_
      rw [List.cons_append, escape_unicode]
      exact h s

/-- The bytes up to a closing quote are settled. The induction is on their number: a surrogate pair
spans two escapes. -/
theorem body_settled (t : List UInt8) (ht : Body t) (acc : List UInt8) :
    Settled (Finds fun _ => repeatedly stringStep acc) 0 (t ++ [0x22]) := by
  induction hk : t.length using Nat.strongRecOn generalizing t acc with
  | _ k ih =>
    subst hk
    have escaped (u : List UInt8) (hu : t = 0x5C :: u) :
        Settled (Finds fun _ => repeatedly stringStep acc) 0 (t ++ [0x22]) := by
      subst hu
      rcases escape_one ht with ⟨c, t', ht', hlen, h⟩ | h
      · have hlt : t'.length < (0x5C :: u).length := by
          simp only [List.length_cons]
          omega
        apply settled_eq (ih t'.length hlt t' ht' ((String.utf8EncodeChar c).reverse ++ acc) rfl)
        intro depth s _
        have hs := stringStep_escape acc _ _ c (h s)
        simpa using repeatedly_go stringStep_advances hs
      · apply settled_never
        intro depth s _ _ a rest hf
        obtain ⟨e, he⟩ := h s
        have hs : stringStep acc (0x5C :: (u ++ 0x22 :: s)) = .error e := by
          simp [stringStep, he]
        rw [Finds, List.append_assoc, List.cons_append, List.singleton_append,
          repeatedly_error hs] at hf
        cases hf
    cases ht with
    | done => exact settled_ok acc.reverse fun depth s _ _ => repeatedly_done rfl
    | @plain b t hb ht =>
      have hlt : t.length < (b :: t).length := by simp
      apply settled_eq (ih t.length hlt t ht (b :: acc) rfl)
      intro depth s _
      exact repeatedly_go stringStep_advances (stringStep_plain acc _ b hb)
    | short => exact escaped _ rfl
    | unicode => exact escaped _ rfl

theorem string_settled (t : List UInt8) (ht : Body t) :
    Settled (Finds fun _ => Reader.string) 0 (t ++ [0x22]) := by
  obtain ⟨o, ho⟩ := body_settled t ht []
  cases hb : o.bind Utf8.string? with
  | none =>
    apply settled_never
    intro depth s hd hs a rest h
    obtain ⟨raw, mid, hr, hm⟩ := bind_eq_ok.mp h
    obtain ⟨rfl, rfl⟩ := (ho depth s hd hs raw mid).mp hr
    rw [Option.bind_some] at hb
    rw [hb] at hm
    cases hm
  | some x =>
    obtain ⟨raw, rfl, hx⟩ := Option.bind_eq_some_iff.mp hb
    apply settled_ok x
    intro depth s hd hs
    rw [Reader.string, bind_ok _ ((ho depth s hd hs raw s).mpr ⟨rfl, rfl⟩), hx]
    rfl

end RestGateway.Json.Grammar

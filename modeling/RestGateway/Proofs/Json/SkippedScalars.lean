import RestGateway.Proofs.Json.Meaning

/-!
# Passing over strings and numbers

Of a value that nobody asked for only its end is looked for. A string is passed over whatever its
escapes name, and a number whatever its size: what is taken is any string and any number of the
grammar, and nothing else.
-/

set_option autoImplicit false

namespace RestGateway.Json.Grammar
open Reader

theorem skipEscape_cut {bs rest : List UInt8} {u : Unit} (h : skipEscape bs = .ok (u, rest)) :
    ∃ e, bs = e ++ rest ∧ ∀ t, Body t → Body (0x5C :: (e ++ t)) := by
  cases bs with
  | nil => cases h
  | cons b bs =>
    simp only [skipEscape] at h
    split_ifs at h with hb hu
    · cases h
      exact ⟨[b], rfl, fun t ht => .short hb ht⟩
    · cases hq : hexQuad bs with
      | error e => simp [hq] at h
      | ok p =>
        rw [hq] at h
        cases h
        obtain ⟨q, rfl, hquad⟩ := hexQuad_iff.mp hq
        exact ⟨0x75 :: q, by rw [hu]; rfl, fun t ht => quad_body hquad ht⟩

theorem skipStringStep_cut {bs mid : List UInt8} {s : Unit} {r : Unit ⊕ Unit}
    (h : skipStringStep s bs = .ok (r, mid)) :
    (r = .inr () ∧ bs = 0x22 :: mid) ∨
      (r = .inl () ∧ ∃ e, bs = e ++ mid ∧ e ≠ [] ∧ ∀ t, Body t → Body (e ++ t)) := by
  cases bs with
  | nil => cases h
  | cons b bs =>
    simp only [skipStringStep] at h
    split_ifs at h with hq he hl
    · cases h
      exact .inl ⟨rfl, by rw [hq]⟩
    · cases hx : skipEscape bs with
      | error e => simp [hx] at h
      | ok p =>
        rw [hx] at h
        cases h
        obtain ⟨e, rfl, hbody⟩ := skipEscape_cut hx
        exact .inr ⟨rfl, 0x5C :: e, by rw [he]; rfl, by simp, hbody⟩
    · cases h
      exact .inr ⟨rfl, [b], rfl, by simp, fun t ht => .plain ⟨UInt8.not_lt.mp hl, hq, he⟩ ht⟩

theorem skipStringStep_advances : Advances skipStringStep := by
  apply advances_of_cut
  intro s bs next rest h
  obtain ⟨hr, -⟩ | ⟨-, e, hbs, he, -⟩ := skipStringStep_cut h
  · cases hr
  · exact ⟨e, hbs, he⟩

theorem loop_body {g bs rest : List UInt8} {u : Unit}
    (h : loop skipStringStep g () bs = .ok (u, rest)) :
    ∃ t, bs = t ++ 0x22 :: rest ∧ Body t := by
  apply loop_induct (P := fun _ bs _ rest => ∃ t, bs = t ++ 0x22 :: rest ∧ Body t) ?_ h
  intro s bs r left u rest hs hafter
  obtain ⟨rfl, rfl⟩ | ⟨rfl, e, rfl, -, hbody⟩ := skipStringStep_cut hs
  · obtain ⟨-, rfl⟩ := hafter
    exact ⟨[], rfl, .done⟩
  · obtain ⟨t, rfl, ht⟩ := hafter
    exact ⟨e ++ t, (List.append_assoc _ _ _).symm, hbody t ht⟩

theorem body_skipped {t : List UInt8} (h : Body t) (rest : List UInt8) :
    skipString (t ++ 0x22 :: rest) = .ok ((), rest) := by
  unfold skipString
  induction h with
  | done => exact repeatedly_done rfl
  | @plain b t hb _ ih =>
    have hs : skipStringStep () (b :: (t ++ 0x22 :: rest)) = .ok (.inl (), t ++ 0x22 :: rest) := by
      simp only [skipStringStep, if_neg hb.2.1, if_neg hb.2.2, if_neg (UInt8.not_lt.mpr hb.1)]
    rw [List.cons_append, repeatedly_go skipStringStep_advances hs, ih]
  | @short b t hb _ ih =>
    have hs : skipStringStep () (0x5C :: b :: (t ++ 0x22 :: rest)) =
        .ok (.inl (), t ++ 0x22 :: rest) := by
      simp [skipStringStep, skipEscape, hb]
    rw [List.cons_append, List.cons_append, repeatedly_go skipStringStep_advances hs, ih]
  | @unicode a b c d t hx _ ih =>
    obtain ⟨n, hq⟩ := hexQuad_ok a b c d hx
    have hs : skipStringStep () (0x5C :: 0x75 :: a :: b :: c :: d :: (t ++ 0x22 :: rest)) =
        .ok (.inl (), t ++ 0x22 :: rest) := by
      have hu : (shortEscape? 0x75).isSome = false := rfl
      simp [skipStringStep, skipEscape, hu, hq]
    simp only [List.cons_append]
    rw [repeatedly_go skipStringStep_advances hs, ih]

theorem skipString_iff {bs rest : List UInt8} {u : Unit} :
    skipString bs = .ok (u, rest) ↔ ∃ t, bs = t ++ 0x22 :: rest ∧ Body t := by
  constructor
  · exact loop_body
  · rintro ⟨t, rfl, ht⟩
    exact body_skipped ht rest

theorem skipExponent_cut {mark : UInt8} {bs rest : List UInt8} {u : Unit}
    (hm : isExponentMark mark = true) (h : skipExponent bs = .ok (u, rest)) :
    ∃ e, mark :: bs = e ++ rest ∧ Exponent e := by
  obtain ⟨sign, hsign, hbs⟩ := exponentSign_cut bs
  rw [skipExponent] at h
  cases hd : (exponentSign bs).2 with
  | nil =>
    simp only [hd] at h
    cases h
  | cons b more =>
    simp only [hd] at h
    split_ifs at h with hb
    cases h
    rw [hd] at hbs
    have hdigits : Digits (b :: more.takeWhile isDigit) :=
      ⟨by simp, List.forall_mem_cons.mpr ⟨hb, fun _ hx => List.mem_takeWhile_imp hx⟩⟩
    refine ⟨mark :: (sign ++ b :: more.takeWhile isDigit), ?_, .some hm hsign hdigits⟩
    rw [hbs, List.cons_append, List.append_assoc, List.cons_append,
      List.takeWhile_append_dropWhile]

theorem skipAfterDigits_cut {bs rest : List UInt8} {u : Unit}
    (h : skipAfterDigits bs = .ok (u, rest)) : ∃ e, bs = e ++ rest ∧ Exponent e := by
  cases bs with
  | nil =>
    cases h
    exact ⟨[], rfl, .none⟩
  | cons b bs =>
    simp only [skipAfterDigits] at h
    split_ifs at h with hm
    · exact skipExponent_cut hm h
    · cases h
      exact ⟨[], rfl, .none⟩

def skipTail : Reader Unit
  | 0x2E :: more =>
    if (more.takeWhile isDigit).isEmpty then .error ⟨.invalidNumber, more, true, 0⟩
    else skipAfterDigits (more.dropWhile isDigit)
  | more => skipAfterDigits more

theorem skipTail_plain {bs : List UInt8} (h : ∀ b ∈ bs.head?, b ≠ 0x2E) :
    skipTail bs = skipAfterDigits bs := by
  cases bs with
  | nil => rfl
  | cons b bs =>
    have hb : b ≠ 0x2E := h b rfl
    unfold skipTail
    split
    · next heq =>
      cases heq
      exact absurd rfl hb
    · rfl

theorem skipTail_cut {bs rest : List UInt8} {u : Unit} (h : skipTail bs = .ok (u, rest)) :
    ∃ t, bs = t ++ rest ∧ Tail t := by
  by_cases hp : ∀ b ∈ bs.head?, b ≠ 0x2E
  · rw [skipTail_plain hp] at h
    obtain ⟨e, rfl, he⟩ := skipAfterDigits_cut h
    exact ⟨e, rfl, .plain he⟩
  · push Not at hp
    obtain ⟨b, hb, rfl⟩ := hp
    obtain ⟨more, rfl⟩ := List.head?_eq_some_iff.mp hb
    simp only [skipTail] at h
    split_ifs at h with hd
    have hdigits : Digits (more.takeWhile isDigit) := takeWhile_whole (by simpa using hd)
    obtain ⟨e, hmore, he⟩ := skipAfterDigits_cut h
    refine ⟨0x2E :: (more.takeWhile isDigit ++ e), ?_, .point hdigits he⟩
    rw [List.cons_append, List.append_assoc, ← hmore, List.takeWhile_append_dropWhile]

theorem skipNumber_cons (b : UInt8) (bs : List UInt8) : skipNumber (b :: bs) =
    if ((b :: bs).takeWhile isDigit).isEmpty then .error ⟨.invalidNumber, bs, false, 0⟩
    else if b = 0x30 ∧ ((b :: bs).takeWhile isDigit).length ≠ 1 then
      .error ⟨.invalidNumber, bs, true, 0⟩
    else skipTail ((b :: bs).dropWhile isDigit) := rfl

theorem skipNumber_cut {bs rest : List UInt8} {u : Unit} (h : skipNumber bs = .ok (u, rest)) :
    ∃ t, bs = t ++ rest ∧ Numeral t := by
  cases bs with
  | nil => cases h
  | cons b bs =>
    rw [skipNumber_cons] at h
    split_ifs at h with he hz
    have hdigits : Digits ((b :: bs).takeWhile isDigit) := takeWhile_whole (by simpa using he)
    obtain ⟨t, ht, htail⟩ := skipTail_cut h
    have hbs := List.takeWhile_append_dropWhile (p := isDigit) (l := b :: bs)
    have hb : isDigit b = true := by
      by_contra hb
      rw [List.takeWhile_cons_of_neg hb] at he
      exact he rfl
    have hhead : (b :: bs).takeWhile isDigit = b :: bs.takeWhile isDigit :=
      List.takeWhile_cons_of_pos hb
    have hwhole : Whole ((b :: bs).takeWhile isDigit) := by
      refine ⟨hdigits, fun h0 => ?_⟩
      rw [hhead, List.head?_cons, Option.some.injEq] at h0
      subst h0
      have hone : ((0x30 :: bs).takeWhile isDigit).length = 1 := by simpa using hz
      rw [hhead, List.length_cons, Nat.add_eq_right, List.length_eq_zero_iff] at hone
      rw [hhead, hone]
    exact ⟨(b :: bs).takeWhile isDigit ++ t, by rw [List.append_assoc, ← ht, hbs], .mk hwhole htail⟩

theorem exponent_skipped {e s : List UInt8} (he : Exponent e) (hs : Boundary s) :
    skipAfterDigits (e ++ s) = .ok ((), s) := by
  cases he with
  | none =>
    cases s with
    | nil => rfl
    | cons b s =>
      have hb := (hs b rfl).2.2
      simp [skipAfterDigits, hb]
  | @some mark sign ds hm hsign hd =>
    obtain ⟨d, ds, rfl⟩ := List.exists_cons_of_ne_nil hd.1
    obtain ⟨h0, hds⟩ := List.forall_mem_cons.mp hd.2
    have hstop : ∀ b ∈ s.head?, isDigit b = false := fun b hb => (hs b hb).1
    have hx := exponentSign_digit sign (d :: (ds ++ s)) hsign (by simpa using h0)
    rw [List.cons_append, List.append_assoc, List.cons_append]
    simp only [skipAfterDigits, hm, if_true, skipExponent, hx, h0, dropWhile_digits ds s hds hstop]

theorem exponent_first {e s : List UInt8} (he : Exponent e) (hs : Boundary s) :
    ∀ b ∈ (e ++ s).head?, b ≠ 0x2E := by
  cases he with
  | none => exact fun b hb => (hs b hb).2.1
  | some hm _ _ => simpa using (mark_stops _ hm).2

theorem tail_skipped {t s : List UInt8} (ht : Tail t) (hs : Boundary s) :
    skipTail (t ++ s) = .ok ((), s) := by
  cases ht with
  | plain he =>
    rw [skipTail_plain (exponent_first he hs)]
    exact exponent_skipped he hs
  | @point ds e hd he =>
    have hstop := tail_stops (.plain he) hs
    have htake := takeWhile_digits ds _ hd.2 hstop
    have hdrop := dropWhile_digits ds _ hd.2 hstop
    have hne : ds.isEmpty = false := by simpa using hd.1
    rw [List.cons_append, List.append_assoc]
    simp only [skipTail, htake, hdrop, hne]
    exact exponent_skipped he hs

theorem numeral_skipped {t s : List UInt8} (ht : Numeral t) (hs : Boundary s) :
    skipNumber (t ++ s) = .ok ((), s) := by
  obtain ⟨hw, htail⟩ := ht
  next ds tail =>
    have hstop := tail_stops htail hs
    have htake := takeWhile_digits ds _ hw.1.2 hstop
    have hdrop := dropWhile_digits ds _ hw.1.2 hstop
    obtain ⟨d, ds, rfl⟩ := List.exists_cons_of_ne_nil hw.1.1
    have hzero : ¬(d = 0x30 ∧ (d :: ds).length ≠ 1) := by
      rintro ⟨rfl, hl⟩
      rw [hw.2 rfl] at hl
      exact hl rfl
    rw [List.append_assoc, List.cons_append] at *
    rw [skipNumber_cons, htake, hdrop, if_neg (by simp), if_neg hzero]
    exact tail_skipped htail hs

theorem skipScalar_cut {b : UInt8} {more rest : List UInt8} {u : Unit}
    (h : skipScalar b (b :: more) = .ok (u, rest)) :
    ∃ v, b :: more = v ++ rest ∧ Phrase .value 0 v := by
  have hword {ks : List UInt8} (h : (drop >>= fun _ => keyword ks) (b :: more) = .ok (u, rest)) :
      more = ks ++ rest := by
    rw [bind_ok _ (drop_cons b more)] at h
    exact keyword_cut h
  unfold skipScalar at h
  split_ifs at h with h1 h2 h3 h4 h5 h6
  · exact ⟨_, by rw [h1, hword h]; rfl, .null⟩
  · exact ⟨_, by rw [h2, hword h]; rfl, .true⟩
  · exact ⟨_, by rw [h3, hword h]; rfl, .false⟩
  · rw [bind_ok _ (drop_cons b more)] at h
    obtain ⟨t, rfl, ht⟩ := skipString_iff.mp h
    exact ⟨_, by simp [h4], .string ht⟩
  · rw [bind_ok _ (drop_cons b more)] at h
    obtain ⟨t, rfl, ht⟩ := skipNumber_cut h
    exact ⟨_, by rw [h5]; rfl, .negative ht⟩
  · obtain ⟨t, ht, hn⟩ := skipNumber_cut h
    exact ⟨t, ht, .number hn⟩
  · cases h

end RestGateway.Json.Grammar

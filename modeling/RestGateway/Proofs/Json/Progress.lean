import RestGateway.Proofs.Json.Reading

/-!
# Every value takes a byte

What reads a value takes a byte at least, whatever the value. So each round over a list or an object
advances, and the bound on the number of rounds is never what ends a reading.
-/

set_option autoImplicit false

namespace RestGateway.Json.Reader

variable {α : Type}

theorem takes_hexQuad : Takes 4 hexQuad := by
  intro bs n rest h
  unfold hexQuad at h
  split at h
  · split at h
    · cases h
      simp
    · cases h
  · cases h

theorem takes_pairMark (b : UInt8) : Takes 1 (pairMark b) := by
  intro bs u rest h
  unfold pairMark at h
  split at h
  · cases h
  · split at h
    · cases h
      simp
    · cases h

theorem takes_unicodeEscape : Takes 4 unicodeEscape := by
  refine takes_bind (n := 0) takes_hexQuad fun n => ?_
  split_ifs
  · exact takes_fail 0 _
  · refine takes_then (takes_mono (takes_pairMark _) (Nat.zero_le 1)) fun _ => ?_
    refine takes_then (takes_mono (takes_pairMark _) (Nat.zero_le 1)) fun _ => ?_
    refine takes_then (takes_mono takes_hexQuad (Nat.zero_le 4)) fun m => ?_
    split_ifs
    · exact takes_pure _
    · exact takes_fail 0 _
  · exact takes_pure _

theorem takes_escape : Takes 1 escape := by
  intro bs c rest h
  unfold escape at h
  split at h
  · cases h
  · next b more =>
    split at h
    · cases h
      simp
    · split_ifs at h
      have := takes_unicodeEscape more c rest h
      simp only [List.length_cons]
      omega

theorem takes_stringStep (acc : List UInt8) : Takes 1 (stringStep acc) := by
  intro bs r rest h
  unfold stringStep at h
  split at h
  · cases h
  · next b more =>
    split_ifs at h
    · cases h
      simp
    · cases he : escape more with
      | error e => simp [he] at h
      | ok p =>
        have := takes_escape more p.1 p.2 he
        simp only [he] at h
        cases h
        simp only [List.length_cons]
        omega
    · cases h
      simp

theorem stringStep_advances : Advances stringStep := advances_of_takes takes_stringStep

theorem takes_string : Takes 1 string := by
  refine takes_bind (n := 0) (takes_repeatedly takes_stringStep []) fun raw => ?_
  split
  · exact takes_pure _
  · intro bs s rest h
    cases h

theorem takes_float (negative : Bool) (significand : Nat) (e : Int) :
    Takes 0 (float negative significand e) := by
  unfold float
  split
  · exact takes_pure _
  · exact takes_fail 0 _

theorem exponentDigits_length (negative : Bool) (significand : Nat) (start : Int) (down : Bool)
    (n : Nat) (bs : List UInt8) (x : Number) (rest : List UInt8)
    (h : exponentDigits negative significand start down n bs = .ok (x, rest)) :
    rest.length ≤ bs.length := by
  induction bs generalizing n with
  | nil =>
    rw [exponentDigits] at h
    exact takes_float _ _ _ _ _ _ h
  | cons b bs ih =>
    have hd := (List.dropWhile_sublist isDigit (l := bs)).length_le
    simp only [exponentDigits] at h
    simp only [List.length_cons]
    split_ifs at h
    · have := ih _ h
      omega
    · cases h
      omega
    · exact takes_float _ _ _ _ _ _ h
    · exact takes_float _ _ _ _ _ _ h

theorem exponentSign_length (bs : List UInt8) : (exponentSign bs).2.length ≤ bs.length := by
  unfold exponentSign
  split <;> simp

theorem takes_exponent (negative : Bool) (significand : Nat) (start : Int) :
    Takes 0 (exponent negative significand start) := by
  intro bs x rest h
  have hs := exponentSign_length bs
  simp only [exponent] at h
  split at h
  · cases h
  · next b more hb =>
    rw [hb] at hs
    simp only [List.length_cons] at hs
    split_ifs at h
    have := exponentDigits_length _ _ _ _ _ _ _ _ h
    omega

theorem takes_fraction (negative : Bool) (significand dropped : Nat) :
    Takes 0 (fraction negative significand dropped) := by
  intro bs x rest h
  have hd := (List.dropWhile_sublist isDigit (l := bs)).length_le
  simp only [fraction] at h
  split_ifs at h
  split at h
  · next b more hb =>
    rw [hb] at hd
    simp only [List.length_cons] at hd
    split_ifs at h
    · have := takes_exponent _ _ _ _ _ _ h
      omega
    · have := takes_float _ _ _ _ _ _ h
      rw [hb] at this
      simp only [List.length_cons] at this
      omega
  · have := takes_float _ _ _ _ _ _ h
    omega

theorem takes_afterInteger (negative : Bool) (significand dropped : Nat) :
    Takes 0 (afterInteger negative significand dropped) := by
  intro bs x rest h
  simp only [afterInteger] at h
  split at h
  · split_ifs at h
    · cases h
      simp
    · exact takes_float _ _ _ _ _ _ h
  · next b more =>
    split_ifs at h
    · have := takes_fraction _ _ _ _ _ _ h
      simp only [List.length_cons]
      omega
    · have := takes_exponent _ _ _ _ _ _ h
      simp only [List.length_cons]
      omega
    · cases h
      simp
    · exact takes_float _ _ _ _ _ _ h

theorem takes_number (negative : Bool) : Takes 1 (number negative) := by
  intro bs x rest h
  simp only [number] at h
  split at h
  · cases h
  · next b more =>
    simp only [List.length_cons]
    split_ifs at h with hz hd
    · split at h
      · split_ifs at h
        have := takes_afterInteger _ _ _ _ _ _ h
        omega
      · have := takes_afterInteger _ _ _ _ _ _ h
        omega
    · have := takes_afterInteger _ _ _ _ _ _ h
      have hm := (List.dropWhile_sublist isDigit (l := more)).length_le
      rw [List.dropWhile_cons_of_pos hd] at this
      omega

theorem takes_scalar (b : UInt8) (r : Reader Json) (h : scalar? b = some r) : Takes 1 r := by
  unfold scalar? at h
  split_ifs at h
  all_goals
    cases h
  · exact takes_then takes_drop fun _ => takes_bind (n := 0)
      (takes_mono (takes_keyword restOfNull) (by decide)) fun _ => takes_pure _
  · exact takes_then takes_drop fun _ => takes_bind (n := 0)
      (takes_mono (takes_keyword restOfTrue) (by decide)) fun _ => takes_pure _
  · exact takes_then takes_drop fun _ => takes_bind (n := 0)
      (takes_mono (takes_keyword restOfFalse) (by decide)) fun _ => takes_pure _
  · exact takes_then takes_drop fun _ => takes_bind (n := 0) takes_string fun _ => takes_pure _
  · exact takes_then takes_drop fun _ => takes_bind (n := 0) (takes_number true) fun _ => takes_pure _
  · exact takes_bind (n := 0) (takes_number false) fun _ => takes_pure _

theorem takes_hasElement (initial : Bool) : Takes 0 (hasElement initial) := by
  refine takes_then takes_first fun o => ?_
  cases o with
  | none => exact takes_failAhead 0 _
  | some b =>
    dsimp only
    split_ifs
    · exact takes_pure _
    · exact takes_pure _
    · refine takes_then takes_drop fun _ => takes_then takes_first fun o => ?_
      cases o with
      | none => exact takes_failAhead 0 _
      | some c =>
        dsimp only
        split_ifs
        · exact takes_failAhead 0 _
        · exact takes_pure _
    · exact takes_failAhead 0 _

theorem first_some (bs rest : List UInt8) (b : UInt8) (h : first bs = .ok (some b, rest)) :
    ∃ more, rest = b :: more := by
  obtain ⟨hb, rfl⟩ := Prod.mk.inj (Except.ok.inj h)
  exact List.head?_eq_some_iff.mp hb

theorem hasElement_false {initial : Bool} {bs rest : List UInt8} :
    hasElement initial bs = .ok (false, rest) ↔ first bs = .ok (some 0x5D, rest) := by
  constructor
  · intro h
    unfold hasElement at h
    obtain ⟨o, mid, hf, h⟩ := bind_eq_ok.mp h
    cases o with
    | none => cases h
    | some b =>
      dsimp only at h
      split_ifs at h with hb hi hc
      · cases h
        rw [hf, hb]
      · cases h
      · obtain ⟨u, mid', -, h⟩ := bind_eq_ok.mp h
        obtain ⟨o, mid'', -, h⟩ := bind_eq_ok.mp h
        cases o with
        | none => cases h
        | some c =>
          dsimp only at h
          split_ifs at h <;> cases h
      · cases h
  · intro h
    rw [hasElement, bind_ok _ h]
    rfl

theorem hasElement_close {initial : Bool} {bs rest : List UInt8}
    (h : hasElement initial bs = .ok (false, rest)) : ∃ more, rest = 0x5D :: more :=
  first_some _ _ _ (hasElement_false.mp h)

theorem takes_listStep (item : Reader α) (hi : Takes 1 item) (acc : List α) :
    Takes 1 (listStep item acc) := by
  intro bs r rest h
  unfold listStep at h
  obtain ⟨more, mid, he, h⟩ := bind_eq_ok.mp h
  have hm := takes_hasElement _ _ _ _ he
  cases more with
  | true =>
    obtain ⟨a, mid', ha, h⟩ := bind_eq_ok.mp h
    have := hi _ _ _ ha
    cases h
    omega
  | false =>
    obtain ⟨tail, rfl⟩ := hasElement_close he
    cases h
    simpa using hm

theorem listStep_advances {item : Reader α} (hi : Takes 1 item) : Advances (listStep item) :=
  advances_of_takes (takes_listStep item hi)

theorem takes_listOf (item : Reader α) (hi : Takes 1 item) : Takes 1 (listOf (some item)) :=
  takes_then takes_drop fun _ => takes_repeatedly (takes_listStep item hi) []

theorem takes_memberName (initial : Bool) : Takes 0 (memberName? initial) := by
  have hs : Takes 0 (drop >>= fun _ => string >>= fun s => pure (some s)) :=
    takes_then takes_drop fun _ => takes_then (takes_mono takes_string (Nat.zero_le 1))
      fun _ => takes_pure _
  refine takes_then takes_first fun o => ?_
  cases o with
  | none => exact takes_failAhead 0 _
  | some b =>
    dsimp only
    split_ifs
    · exact takes_pure _
    · exact hs
    · exact takes_failAhead 0 _
    · refine takes_then takes_drop fun _ => takes_then takes_first fun o => ?_
      cases o with
      | none => exact takes_failAhead 0 _
      | some c =>
        dsimp only
        split_ifs
        · exact hs
        · exact takes_failAhead 0 _
        · exact takes_failAhead 0 _
    · exact takes_failAhead 0 _

theorem named_some (bs rest : List UInt8) :
    (drop >>= fun _ => string >>= fun s => (pure (some s) : Reader (Option String))) bs ≠
      .ok (none, rest) := by
  intro h
  obtain ⟨u, mid, -, h⟩ := bind_eq_ok.mp h
  obtain ⟨s, mid', -, h⟩ := bind_eq_ok.mp h
  cases h

theorem memberName_none {initial : Bool} {bs rest : List UInt8} :
    memberName? initial bs = .ok (none, rest) ↔ first bs = .ok (some 0x7D, rest) := by
  constructor
  · intro h
    unfold memberName? at h
    obtain ⟨o, mid, hf, h⟩ := bind_eq_ok.mp h
    cases o with
    | none => cases h
    | some b =>
      dsimp only at h
      split_ifs at h with hb
      · cases h
        rw [hf, hb]
      · exact absurd h (named_some _ _)
      · cases h
      · obtain ⟨u, mid', -, h⟩ := bind_eq_ok.mp h
        obtain ⟨o, mid'', -, h⟩ := bind_eq_ok.mp h
        cases o with
        | none => cases h
        | some c =>
          dsimp only at h
          split_ifs at h
          · exact absurd h (named_some _ _)
          · cases h
          · cases h
      · cases h
  · intro h
    rw [memberName?, bind_ok _ h]
    rfl

theorem memberName_close {initial : Bool} {bs rest : List UInt8}
    (h : memberName? initial bs = .ok (none, rest)) : ∃ more, rest = 0x7D :: more :=
  first_some _ _ _ (memberName_none.mp h)

theorem takes_colon : Takes 0 colon := by
  refine takes_then takes_first fun o => ?_
  cases o with
  | none => exact takes_failAhead 0 _
  | some b =>
    dsimp only
    split_ifs
    · exact takes_drop
    · exact takes_failAhead 0 _

theorem takes_objectStep (item : Reader α) (hi : Takes 1 item) (acc : List (String × α)) :
    Takes 1 (objectStep item acc) := by
  intro bs r rest h
  unfold objectStep at h
  obtain ⟨name, mid, hn, h⟩ := bind_eq_ok.mp h
  have hm := takes_memberName _ _ _ _ hn
  cases name with
  | some name =>
    obtain ⟨u, mid', hc, h⟩ := bind_eq_ok.mp h
    have := takes_colon _ _ _ hc
    obtain ⟨a, mid'', ha, h⟩ := bind_eq_ok.mp h
    have := hi _ _ _ ha
    cases h
    omega
  | none =>
    obtain ⟨tail, rfl⟩ := memberName_close hn
    cases h
    simpa using hm

theorem objectStep_advances {item : Reader α} (hi : Takes 1 item) : Advances (objectStep item) :=
  advances_of_takes (takes_objectStep item hi)

theorem takes_objectOf (item : Reader α) (hi : Takes 1 item) : Takes 1 (objectOf (some item)) :=
  takes_then takes_drop fun _ => takes_repeatedly (takes_objectStep item hi) []

theorem takes_valueWith (inner : Option (Reader Json)) (hi : ∀ r, inner = some r → Takes 1 r) :
    Takes 1 (valueWith inner) := by
  refine takes_then takes_begin fun b => ?_
  split_ifs
  · refine takes_bind (n := 0) ?_ fun _ => takes_pure _
    cases inner with
    | none => exact takes_failAhead 1 _
    | some r => exact takes_listOf r (hi r rfl)
  · refine takes_bind (n := 0) ?_ fun _ => takes_pure _
    cases inner with
    | none => exact takes_failAhead 1 _
    | some r => exact takes_objectOf r (hi r rfl)
  · split
    · next r hr => exact takes_scalar b r hr
    · exact takes_failAhead 1 _

theorem takes_value (depth : Nat) : Takes 1 (value depth) := by
  induction depth with
  | zero =>
    apply takes_valueWith
    intro r h
    cases h
  | succ depth ih =>
    apply takes_valueWith
    rintro r ⟨⟩
    exact ih

end RestGateway.Json.Reader

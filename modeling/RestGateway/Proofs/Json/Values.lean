import RestGateway.Proofs.Json.Sequences

/-!
# What a value begins with

The first byte after blanks tells whether a value is a list, an object or a scalar. From this come
the rules by which a list or an object is read piece by piece: each piece is a value, or a name with
a value, and what follows it.
-/

set_option autoImplicit false

namespace RestGateway.Json.Reader

theorem begin_ok {bs mid : List UInt8} {b : UInt8} (h : begin bs = .ok (b, mid)) :
    isBlank b = false ∧ ∃ more, mid = b :: more := by
  rw [begin] at h
  obtain ⟨o, mid', hf, h⟩ := bind_eq_ok.mp h
  cases o with
  | none => cases h
  | some c =>
    cases h
    obtain ⟨more, rfl⟩ := first_some _ _ _ hf
    obtain ⟨-, hm⟩ := Prod.mk.inj (Except.ok.inj hf)
    have hd := List.head?_dropWhile_not isBlank bs
    rw [hm] at hd
    exact ⟨by simpa using hd, more, rfl⟩

theorem value_begin {depth : Nat} {bs mid : List UInt8} {b : UInt8}
    (h : begin bs = .ok (b, mid)) : value depth bs = value depth mid := by
  obtain ⟨hb, more, rfl⟩ := begin_ok h
  have hm := begin_cons b more hb
  cases depth <;> rw [value, valueWith, bind_ok _ h, bind_ok _ hm]

theorem value_blank (depth : Nat) (w bs : List UInt8) (hw : Blanks w) :
    value depth (w ++ bs) = value depth bs := by
  cases depth <;> exact bind_blank _ w bs (begin_blank w bs hw)

theorem map_ok {α β : Type} {x : Reader α} {f : α → β} {bs rest : List UInt8} {b : β} :
    (x >>= fun a => pure (f a)) bs = .ok (b, rest) ↔ ∃ a, b = f a ∧ x bs = .ok (a, rest) := by
  rw [bind_eq_ok]
  constructor
  · rintro ⟨a, mid, hx, h⟩
    cases h
    exact ⟨a, rfl, hx⟩
  · rintro ⟨a, rfl, hx⟩
    exact ⟨a, rest, hx, rfl⟩

theorem scalar_ok {b : UInt8} {r : Reader Json} {more rest : List UInt8} {v : Json}
    (hr : scalar? b = some r) (h : r (b :: more) = .ok (v, rest)) :
    (∀ items, v ≠ .list items) ∧ (∀ members, v ≠ .object members) ∧
      ∀ s, v = .string s → b = 0x22 ∧ string more = .ok (s, rest) := by
  unfold scalar? at hr
  split_ifs at hr with h1 h2 h3 h4
  all_goals cases hr
  · rw [bind_ok _ (drop_cons b more)] at h
    obtain ⟨u, rfl, -⟩ := map_ok.mp h
    simp
  · rw [bind_ok _ (drop_cons b more)] at h
    obtain ⟨u, rfl, -⟩ := map_ok.mp h
    simp
  · rw [bind_ok _ (drop_cons b more)] at h
    obtain ⟨u, rfl, -⟩ := map_ok.mp h
    simp
  · rw [bind_ok _ (drop_cons b more)] at h
    obtain ⟨s, rfl, hs⟩ := map_ok.mp h
    refine ⟨by simp, by simp, ?_⟩
    rintro s' ⟨⟩
    exact ⟨h4, hs⟩
  · rw [bind_ok _ (drop_cons b more)] at h
    obtain ⟨n, rfl, -⟩ := map_ok.mp h
    simp
  · obtain ⟨n, rfl, -⟩ := map_ok.mp h
    simp

theorem value_scalar {depth : Nat} {b : UInt8} {more : List UInt8} {r : Reader Json}
    (hb : isBlank b = false) (hl : b ≠ 0x5B) (ho : b ≠ 0x7B) (hr : scalar? b = some r) :
    value depth (b :: more) = r (b :: more) := by
  have hv : ∀ inner, valueWith inner (b :: more) = r (b :: more) := by
    intro inner
    rw [valueWith, bind_ok _ (begin_cons b more hb), if_neg hl, if_neg ho, hr]
  cases depth <;> exact hv _

theorem value_ok {depth : Nat} {bs rest : List UInt8} {v : Json}
    (h : value depth bs = .ok (v, rest)) : ∃ b more, begin bs = .ok (b, b :: more) ∧
      ((b = 0x5B ∧ ∃ inner items, depth = inner + 1 ∧ v = .list items ∧
          Items (value inner) true more items rest) ∨
        (b = 0x7B ∧ ∃ inner pairs, depth = inner + 1 ∧ v = .object (Members.ofPairs pairs) ∧
          Pairs (value inner) true more pairs rest) ∨
        ∃ r, scalar? b = some r ∧ r (b :: more) = .ok (v, rest)) := by
  have hw : ∃ inner, valueWith inner bs = .ok (v, rest) := by
    cases depth with
    | zero => exact ⟨none, h⟩
    | succ depth => exact ⟨some (value depth), h⟩
  obtain ⟨inner, hw⟩ := hw
  rw [valueWith] at hw
  obtain ⟨b, mid, hbeg, hw⟩ := bind_eq_ok.mp hw
  obtain ⟨hb, more, rfl⟩ := begin_ok hbeg
  refine ⟨b, more, hbeg, ?_⟩
  rw [value_begin hbeg] at h
  split_ifs at hw with hl ho
  · subst hl
    cases depth with
    | zero =>
      rw [value, valueWith, bind_ok _ (begin_cons _ more hb)] at h
      cases h
    | succ depth =>
      obtain ⟨items, rfl, hi⟩ := value_list.mp h
      exact Or.inl ⟨rfl, depth, items, rfl, rfl, hi⟩
  · subst ho
    cases depth with
    | zero =>
      rw [value, valueWith, bind_ok _ (begin_cons _ more hb)] at h
      cases h
    | succ depth =>
      obtain ⟨pairs, rfl, hp⟩ := value_object.mp h
      exact Or.inr (Or.inl ⟨rfl, depth, pairs, rfl, rfl, hp⟩)
  · cases hs : scalar? b with
    | none => simp [hs, failAhead] at hw
    | some r => exact Or.inr (Or.inr ⟨r, rfl, by simpa [hs] using hw⟩)

theorem value_digit {depth : Nat} {b : UInt8} {more : List UInt8} (h : isDigit b = true) :
    value depth (b :: more) = (number false >>= fun n => pure (.number n)) (b :: more) := by
  have hne (c : UInt8) (hc : isDigit c = false) : b ≠ c := digit_ne h hc
  have hr : scalar? b = some (number false >>= fun n => pure (.number n)) := by
    rw [scalar?, if_neg (hne _ rfl), if_neg (hne _ rfl), if_neg (hne _ rfl), if_neg (hne _ rfl),
      if_neg (hne _ rfl), if_pos h]
  exact value_scalar (digit_blank h) (hne _ rfl) (hne _ rfl) hr

theorem value_minus {depth : Nat} {more : List UInt8} :
    value depth (0x2D :: more) = (number true >>= fun n => pure (.number n)) more := by
  rw [value_scalar (by decide) (by decide) (by decide) rfl, bind_ok _ (drop_cons _ _)]

theorem value_quote {depth : Nat} {more : List UInt8} :
    value depth (0x22 :: more) = (string >>= fun s => pure (.string s)) more := by
  rw [value_scalar (by decide) (by decide) (by decide) rfl, bind_ok _ (drop_cons _ _)]

theorem begin_first {bs mid : List UInt8} {b : UInt8} (h : first bs = .ok (some b, mid)) :
    begin bs = .ok (b, mid) := by
  rw [begin, bind_ok _ h]
  rfl

theorem first_begin {bs mid : List UInt8} {b : UInt8} (h : begin bs = .ok (b, mid)) :
    first bs = .ok (some b, mid) := by
  rw [begin] at h
  obtain ⟨o, mid', hf, h⟩ := bind_eq_ok.mp h
  cases o <;> cases h
  exact hf

theorem value_first {depth : Nat} {bs rest : List UInt8} {v : Json}
    (h : value depth bs = .ok (v, rest)) :
    ∃ b mid, first bs = .ok (some b, mid) ∧ b ≠ 0x5D ∧ value depth mid = .ok (v, rest) := by
  obtain ⟨b, more, hb, hv⟩ := value_ok h
  refine ⟨b, b :: more, first_begin hb, ?_, (value_begin hb).symm.trans h⟩
  rcases hv with ⟨rfl, -⟩ | ⟨rfl, -⟩ | ⟨r, hr, -⟩
  · decide
  · decide
  · rintro rfl
    cases hr

theorem hasElement_first {bs mid : List UInt8} :
    hasElement true bs = .ok (true, mid) ↔ ∃ b, first bs = .ok (some b, mid) ∧ b ≠ 0x5D := by
  constructor
  · intro h
    rw [hasElement] at h
    obtain ⟨o, mid', hf, h⟩ := bind_eq_ok.mp h
    cases o with
    | none => cases h
    | some b =>
      simp only [reduceIte] at h
      split_ifs at h with hb
      · cases h
      · cases h
        exact ⟨b, hf, hb⟩
  · rintro ⟨b, hf, hb⟩
    rw [hasElement, bind_ok _ hf]
    simp [hb, pure_apply]

theorem hasElement_later {w bs mid : List UInt8} (hw : Blanks w) :
    hasElement false (w ++ 0x2C :: bs) = .ok (true, mid) ↔
      ∃ b, first bs = .ok (some b, mid) ∧ b ≠ 0x5D := by
  rw [hasElement, bind_ok _ ((first_blank w _ hw).trans (first_cons 0x2C bs (by decide)))]
  simp only [reduceIte, Bool.false_eq_true]
  rw [if_neg (by decide), bind_ok _ (drop_cons 0x2C bs)]
  constructor
  · intro h
    obtain ⟨o, mid', hf, h⟩ := bind_eq_ok.mp h
    cases o with
    | none => cases h
    | some b =>
      dsimp only at h
      split_ifs at h with hb
      · cases h
      · cases h
        exact ⟨b, hf, hb⟩
  · rintro ⟨b, hf, hb⟩
    rw [bind_ok _ hf]
    simp [hb, pure_apply]

theorem items_first {depth : Nat} {bs rest : List UInt8} {vs : List Json} :
    Items (value depth) true bs vs rest ↔
      (vs = [] ∧ first bs = .ok (some 0x5D, 0x5D :: rest)) ∨
        ∃ v vs' more, vs = v :: vs' ∧ value depth bs = .ok (v, more) ∧
          Items (value depth) false more vs' rest := by
  constructor
  · intro h
    cases h with
    | close he => exact Or.inl ⟨rfl, hasElement_false.mp he⟩
    | next he hv hi =>
      obtain ⟨b, hf, -⟩ := hasElement_first.mp he
      exact Or.inr ⟨_, _, _, rfl, (value_begin (begin_first hf)).trans hv, hi⟩
  · rintro (⟨rfl, hf⟩ | ⟨v, vs', more, rfl, hv, hi⟩)
    · exact .close (hasElement_false.mpr hf)
    · obtain ⟨b, mid, hf, hb, hv⟩ := value_first hv
      exact .next (hasElement_first.mpr ⟨b, hf, hb⟩) hv hi

theorem items_later {depth : Nat} {w bs rest : List UInt8} {vs : List Json}
    (hw : Blanks w) :
    Items (value depth) false (w ++ 0x2C :: bs) vs rest ↔
      ∃ v vs' more, vs = v :: vs' ∧ value depth bs = .ok (v, more) ∧
        Items (value depth) false more vs' rest := by
  constructor
  · intro h
    cases h with
    | close he =>
      have hf := hasElement_false.mp he
      rw [first_blank w _ hw, first_cons 0x2C bs (by decide)] at hf
      cases hf
    | next he hv hi =>
      obtain ⟨b, hf, -⟩ := (hasElement_later hw).mp he
      exact ⟨_, _, _, rfl, (value_begin (begin_first hf)).trans hv, hi⟩
  · rintro ⟨v, vs', more, rfl, hv, hi⟩
    obtain ⟨b, mid, hf, hb, hv⟩ := value_first hv
    exact .next ((hasElement_later hw).mpr ⟨b, hf, hb⟩) hv hi

theorem items_close {initial : Bool} {depth : Nat} {w tail rest : List UInt8} {vs : List Json}
    (hw : Blanks w) :
    Items (value depth) initial (w ++ 0x5D :: tail) vs rest ↔ vs = [] ∧ rest = tail := by
  have hf : first (w ++ 0x5D :: tail) = .ok (some 0x5D, 0x5D :: tail) :=
    (first_blank w _ hw).trans (first_cons 0x5D tail (by decide))
  constructor
  · intro h
    cases h with
    | close he =>
      have hr := hasElement_false.mp he
      rw [hf] at hr
      cases hr
      exact ⟨rfl, rfl⟩
    | next he hv hi =>
      rw [hasElement, bind_ok _ hf] at he
      cases he
  · rintro ⟨rfl, rfl⟩
    exact .close (hasElement_false.mpr hf)

variable {α : Type}

def Named (item : Reader α) (bs : List UInt8) (name : String) (a : α) (more : List UInt8) : Prop :=
  ∃ mid mid', string bs = .ok (name, mid) ∧ colon mid = .ok ((), mid') ∧
    item mid' = .ok (a, more)

theorem colon_blank (w bs : List UInt8) (hw : Blanks w) :
    colon (w ++ 0x3A :: bs) = .ok ((), bs) := by
  rw [colon, bind_ok _ ((first_blank w _ hw).trans (first_cons 0x3A bs (by decide)))]
  rfl

theorem memberName_first {w bs : List UInt8} (hw : Blanks w) :
    memberName? true (w ++ 0x22 :: bs) = (string >>= fun s => pure (some s)) bs := by
  rw [memberName?, bind_ok _ ((first_blank w _ hw).trans (first_cons 0x22 bs (by decide)))]
  rfl

theorem memberName_later {w w' bs : List UInt8} (hw : Blanks w)
    (hw' : Blanks w') :
    memberName? false (w ++ 0x2C :: (w' ++ 0x22 :: bs)) =
      (string >>= fun s => pure (some s)) bs := by
  rw [memberName?, bind_ok _ ((first_blank w _ hw).trans (first_cons 0x2C _ (by decide)))]
  simp only [reduceIte, Bool.false_eq_true]
  rw [if_neg (by decide), bind_ok _ (drop_cons 0x2C _),
    bind_ok _ ((first_blank w' _ hw').trans (first_cons 0x22 bs (by decide)))]
  rfl

theorem pairs_named {item : Reader α} {initial : Bool} {cs bs rest : List UInt8}
    {ps : List (String × α)}
    (hn : memberName? initial cs = (string >>= fun s => pure (some s)) bs) :
    Pairs item initial cs ps rest ↔ ∃ name a more ps', ps = (name, a) :: ps' ∧
      Named item bs name a more ∧ Pairs item false more ps' rest := by
  constructor
  · intro h
    cases h with
    | close hc =>
      rw [hn] at hc
      obtain ⟨s, mid, -, hc⟩ := bind_eq_ok.mp hc
      cases hc
    | next hm hc ha hp =>
      rw [hn] at hm
      obtain ⟨s, mid, hs, hm⟩ := bind_eq_ok.mp hm
      cases hm
      exact ⟨_, _, _, _, rfl, ⟨_, _, hs, hc, ha⟩, hp⟩
  · rintro ⟨name, a, more, ps', rfl, ⟨mid, mid', hs, hc, ha⟩, hp⟩
    exact .next (hn.trans (bind_ok _ hs)) hc ha hp

theorem pairs_first {item : Reader α} {w bs rest : List UInt8} {ps : List (String × α)}
    (hw : Blanks w) :
    Pairs item true (w ++ 0x22 :: bs) ps rest ↔ ∃ name a more ps', ps = (name, a) :: ps' ∧
      Named item bs name a more ∧ Pairs item false more ps' rest :=
  pairs_named (memberName_first hw)

theorem pairs_later {item : Reader α} {w w' bs rest : List UInt8} {ps : List (String × α)}
    (hw : Blanks w) (hw' : Blanks w') :
    Pairs item false (w ++ 0x2C :: (w' ++ 0x22 :: bs)) ps rest ↔
      ∃ name a more ps', ps = (name, a) :: ps' ∧ Named item bs name a more ∧
        Pairs item false more ps' rest :=
  pairs_named (memberName_later hw hw')

theorem pairs_close {item : Reader α} {initial : Bool} {w tail rest : List UInt8}
    {ps : List (String × α)} (hw : Blanks w) :
    Pairs item initial (w ++ 0x7D :: tail) ps rest ↔ ps = [] ∧ rest = tail := by
  have hf : first (w ++ 0x7D :: tail) = .ok (some 0x7D, 0x7D :: tail) :=
    (first_blank w _ hw).trans (first_cons 0x7D tail (by decide))
  constructor
  · intro h
    cases h with
    | close hn =>
      have hr := memberName_none.mp hn
      rw [hf] at hr
      cases hr
      exact ⟨rfl, rfl⟩
    | next hn hc ha hp =>
      rw [memberName?, bind_ok _ hf] at hn
      cases hn
  · rintro ⟨rfl, rfl⟩
    exact .close (memberName_none.mpr hf)

end RestGateway.Json.Reader

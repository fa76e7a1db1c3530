import RestGateway.Proofs.Json.Progress

/-!
# Lists and objects without their accumulators

`Items` and `Pairs` say what is found between the brackets of a list and the braces of an object,
one element at a time. The readers find exactly this.
-/

set_option autoImplicit false

namespace RestGateway.Json.Reader

variable {α β : Type}

inductive Items (item : Reader α) : Bool → List UInt8 → List α → List UInt8 → Prop where
  | close {initial : Bool} {bs rest : List UInt8} :
      hasElement initial bs = .ok (false, 0x5D :: rest) → Items item initial bs [] rest
  | next {initial : Bool} {bs mid more rest : List UInt8} {a : α} {as : List α} :
      hasElement initial bs = .ok (true, mid) → item mid = .ok (a, more) →
      Items item false more as rest → Items item initial bs (a :: as) rest

theorem listStep_next {item : Reader α} {acc : List α} {bs mid more : List UInt8} {a : α}
    (he : hasElement acc.isEmpty bs = .ok (true, mid)) (ha : item mid = .ok (a, more)) :
    listStep item acc bs = .ok (.inl (a :: acc), more) := by
  rw [listStep, bind_ok _ he]
  exact bind_ok _ ha

theorem listStep_close {item : Reader α} {acc : List α} {bs rest : List UInt8}
    (he : hasElement acc.isEmpty bs = .ok (false, 0x5D :: rest)) :
    listStep item acc bs = .ok (.inr acc.reverse, rest) := by
  rw [listStep, bind_ok _ he]
  exact bind_ok _ (drop_cons 0x5D rest)

theorem items_repeatedly {item : Reader α} (hi : Takes 1 item) (acc : List α) {as : List α}
    {bs rest : List UInt8} (h : Items item acc.isEmpty bs as rest) :
    repeatedly (listStep item) acc bs = .ok (acc.reverse ++ as, rest) := by
  generalize hinit : acc.isEmpty = initial at h
  induction h generalizing acc with
  | close he =>
    subst hinit
    rw [List.append_nil]
    exact repeatedly_done (listStep_close he)
  | next he ha _ ih =>
    subst hinit
    rw [repeatedly_go (listStep_advances hi) (listStep_next he ha),
      ih _ rfl]
    simp

theorem loop_items {item : Reader α} {g : List UInt8} {acc out : List α} {bs rest : List UInt8}
    (h : loop (listStep item) g acc bs = .ok (out, rest)) :
    ∃ as, out = acc.reverse ++ as ∧ Items item acc.isEmpty bs as rest := by
  apply loop_induct (P := fun acc bs out rest =>
    ∃ as, out = acc.reverse ++ as ∧ Items item acc.isEmpty bs as rest) ?_ h
  intro acc bs r left out rest hs hafter
  obtain ⟨more, mid, he, hs⟩ := bind_eq_ok.mp hs
  cases more with
  | true =>
    obtain ⟨a, mid', ha, hs⟩ := bind_eq_ok.mp hs
    cases hs
    obtain ⟨as, rfl, has⟩ := hafter
    exact ⟨a :: as, by simp, .next he ha has⟩
  | false =>
    obtain ⟨tail, rfl⟩ := hasElement_close he
    cases hs
    obtain ⟨rfl, rfl⟩ := hafter
    exact ⟨[], by simp, .close he⟩

theorem repeatedly_items {item : Reader α} (hi : Takes 1 item) {as : List α}
    {bs rest : List UInt8} :
    repeatedly (listStep item) [] bs = .ok (as, rest) ↔ Items item true bs as rest := by
  constructor
  · intro h
    obtain ⟨as', rfl, has⟩ := loop_items h
    exact has
  · intro h
    exact items_repeatedly hi [] h

inductive Pairs (item : Reader α) : Bool → List UInt8 → List (String × α) → List UInt8 → Prop where
  | close {initial : Bool} {bs rest : List UInt8} :
      memberName? initial bs = .ok (none, 0x7D :: rest) → Pairs item initial bs [] rest
  | next {initial : Bool} {bs mid mid' more rest : List UInt8} {name : String} {a : α}
      {as : List (String × α)} :
      memberName? initial bs = .ok (some name, mid) → colon mid = .ok ((), mid') →
      item mid' = .ok (a, more) → Pairs item false more as rest →
      Pairs item initial bs ((name, a) :: as) rest

theorem objectStep_next {item : Reader α} {acc : List (String × α)} {bs mid mid' more : List UInt8}
    {name : String} {a : α} (hn : memberName? acc.isEmpty bs = .ok (some name, mid))
    (hc : colon mid = .ok ((), mid')) (ha : item mid' = .ok (a, more)) :
    objectStep item acc bs = .ok (.inl ((name, a) :: acc), more) := by
  rw [objectStep, bind_ok _ hn]
  exact (bind_ok _ hc).trans (bind_ok _ ha)

theorem objectStep_close {item : Reader α} {acc : List (String × α)} {bs rest : List UInt8}
    (hn : memberName? acc.isEmpty bs = .ok (none, 0x7D :: rest)) :
    objectStep item acc bs = .ok (.inr acc.reverse, rest) := by
  rw [objectStep, bind_ok _ hn]
  exact bind_ok _ (drop_cons 0x7D rest)

theorem pairs_repeatedly {item : Reader α} (hi : Takes 1 item) (acc : List (String × α))
    {as : List (String × α)} {bs rest : List UInt8} (h : Pairs item acc.isEmpty bs as rest) :
    repeatedly (objectStep item) acc bs = .ok (acc.reverse ++ as, rest) := by
  generalize hinit : acc.isEmpty = initial at h
  induction h generalizing acc with
  | close hn =>
    subst hinit
    rw [List.append_nil]
    exact repeatedly_done (objectStep_close hn)
  | next hn hc ha _ ih =>
    subst hinit
    rw [repeatedly_go (objectStep_advances hi) (objectStep_next hn hc ha),
      ih _ rfl]
    simp

theorem loop_pairs {item : Reader α} {g : List UInt8} {acc out : List (String × α)}
    {bs rest : List UInt8} (h : loop (objectStep item) g acc bs = .ok (out, rest)) :
    ∃ as, out = acc.reverse ++ as ∧ Pairs item acc.isEmpty bs as rest := by
  apply loop_induct (P := fun acc bs out rest =>
    ∃ as, out = acc.reverse ++ as ∧ Pairs item acc.isEmpty bs as rest) ?_ h
  intro acc bs r left out rest hs hafter
  obtain ⟨name, mid, hn, hs⟩ := bind_eq_ok.mp hs
  cases name with
  | some name =>
    obtain ⟨u, mid', hc, hs⟩ := bind_eq_ok.mp hs
    obtain ⟨a, mid'', ha, hs⟩ := bind_eq_ok.mp hs
    cases hs
    obtain ⟨as, rfl, has⟩ := hafter
    exact ⟨(name, a) :: as, by simp, .next hn hc ha has⟩
  | none =>
    obtain ⟨tail, rfl⟩ := memberName_close hn
    cases hs
    obtain ⟨rfl, rfl⟩ := hafter
    exact ⟨[], by simp, .close hn⟩

theorem repeatedly_pairs {item : Reader α} (hi : Takes 1 item) {as : List (String × α)}
    {bs rest : List UInt8} :
    repeatedly (objectStep item) [] bs = .ok (as, rest) ↔ Pairs item true bs as rest := by
  constructor
  · intro h
    obtain ⟨as', rfl, has⟩ := loop_pairs h
    exact has
  · intro h
    exact pairs_repeatedly hi [] h

theorem value_list {depth : Nat} {bs rest : List UInt8} {v : Json} :
    value (depth + 1) (0x5B :: bs) = .ok (v, rest) ↔
      ∃ items, v = .list items ∧ Items (value depth) true bs items rest := by
  have hv : value (depth + 1) (0x5B :: bs) =
      (repeatedly (listStep (value depth)) [] >>= fun l => pure (.list l)) bs := by
    rw [value, valueWith, bind_ok _ (begin_cons 0x5B bs (by decide)), if_pos rfl]
    rfl
  rw [hv, bind_eq_ok]
  constructor
  · rintro ⟨items, mid, hr, h⟩
    cases h
    exact ⟨items, rfl, (repeatedly_items (takes_value depth)).mp hr⟩
  · rintro ⟨items, rfl, hi⟩
    exact ⟨items, rest, (repeatedly_items (takes_value depth)).mpr hi, rfl⟩

theorem value_object {depth : Nat} {bs rest : List UInt8} {v : Json} :
    value (depth + 1) (0x7B :: bs) = .ok (v, rest) ↔
      ∃ pairs, v = .object (Members.ofPairs pairs) ∧ Pairs (value depth) true bs pairs rest := by
  have hv : value (depth + 1) (0x7B :: bs) =
      (repeatedly (objectStep (value depth)) [] >>= fun ps => pure (.object (Members.ofPairs ps)))
        bs := by
    rw [value, valueWith, bind_ok _ (begin_cons 0x7B bs (by decide)), if_neg (by decide),
      if_pos rfl]
    rfl
  rw [hv, bind_eq_ok]
  constructor
  · rintro ⟨pairs, mid, hr, h⟩
    cases h
    exact ⟨pairs, rfl, (repeatedly_pairs (takes_value depth)).mp hr⟩
  · rintro ⟨pairs, rfl, hp⟩
    exact ⟨pairs, rest, (repeatedly_pairs (takes_value depth)).mpr hp, rfl⟩

end RestGateway.Json.Reader

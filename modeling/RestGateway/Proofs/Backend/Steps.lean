import RestGateway.Proofs.Backend.SharedCache

/-!
# Calls for clients, step by step

Between the steps of a call for a client other calls may come to the cache. A step looks at the
entries once or changes them once. Of a call that nothing comes between, the steps together are the
call as a whole.
-/

set_option autoImplicit false

namespace RestGateway.Cache

def keys (c : Cache) : List String := c.entries.map Prod.fst

theorem size_keys (c : Cache) : c.size = c.keys.length := by
  rw [size, keys, List.length_map]

theorem find_none {c : Cache} {k : String} : c.find? k = none ↔ k ∉ c.keys := by
  simp only [find?, keys, List.lookup_eq_none_iff, List.mem_map, not_exists, not_and, bne_iff_ne]
  exact forall₂_congr fun e _ => ne_comm

theorem victim_mem {c : Cache} {choice : Nat} {k : String} (h : c.victim? choice = some k) :
    k ∈ c.keys := by
  obtain ⟨e, he, rfl⟩ := Option.map_eq_some_iff.mp h
  exact List.mem_map_of_mem (List.mem_of_getElem? he)

theorem victim_none {c : Cache} {choice : Nat} (h : c.victim? choice = none) : c.size = 0 := by
  have hlen : c.size ≤ choice % c.size :=
    List.getElem?_eq_none_iff.mp (Option.map_eq_none_iff.mp h)
  by_contra hpos
  exact absurd (Nat.mod_lt choice (Nat.pos_of_ne_zero hpos)) (Nat.not_lt.mpr hlen)

@[simp] theorem keys_remove (c : Cache) (k : String) :
    (c.remove k).keys = c.keys.filter (· != k) := by
  simp only [keys, remove, List.filter_map]
  rfl

@[simp] theorem key_remove (c : Cache) (k : String) (d : Credentials) :
    (c.remove k).key d = c.key d := rfl

@[simp] theorem insert_capacity (c : Cache) (k : String) (client : Client) :
    (c.insert k client).capacity = c.capacity := rfl

theorem size_remove_le (c : Cache) (k : String) : (c.remove k).size ≤ c.size := by
  rw [size_keys, size_keys, keys_remove]
  exact List.length_filter_le _ _

theorem size_remove_lt {c : Cache} {k : String} (h : k ∈ c.keys) : (c.remove k).size < c.size := by
  rw [size_keys, size_keys, keys_remove]
  exact List.length_filter_lt_length_iff_exists.mpr ⟨k, h, by simp⟩

theorem size_insert_le (c : Cache) (k : String) (client : Client) :
    (c.insert k client).size ≤ c.size + 1 :=
  Nat.succ_le_succ (size_remove_le c k)

/-- How far a call for a client has come. -/
inductive Stage where
  | waiting
  /-- There was no client, and one was made. -/
  | missed (client : Client)
  /-- There was no room. -/
  | crowded (client : Client)
  | evicting (client : Client) (victim : String)
  /-- There was room, or room was made. -/
  | placing (client : Client)
  | done (result : Except CallError Client)

def Stage.advance (choice : Nat) (d : Credentials) (c : Cache) : Stage → Stage × Cache
  | .waiting =>
    match c.find? (c.key d) with
    | some client => (.done (.ok client), c)
    | none =>
      match c.connect d with
      | .ok client => (.missed client, c)
      | .error e => (.done (.error e), c)
  | .missed client => (if c.isFull then .crowded client else .placing client, c)
  | .crowded client =>
    match c.victim? choice with
    | some k => (.evicting client k, c)
    | none => (.placing client, c)
  | .evicting client k => (.placing client, c.remove k)
  | .placing client => (.done (.ok client), c.insert (c.key d) client)
  | .done result => (.done result, c)

theorem advance_capacity (choice : Nat) (d : Credentials) (c : Cache) (s : Stage) :
    (s.advance choice d c).2.capacity = c.capacity := by
  cases s with
  | waiting =>
    simp only [Stage.advance]
    cases c.find? (c.key d) with
    | some client => rfl
    | none => cases c.connect d <;> rfl
  | crowded client =>
    simp only [Stage.advance]
    cases c.victim? choice <;> rfl
  | missed | evicting | placing | done => rfl

def Stage.steps (choice : Nat) (d : Credentials) : Nat → Stage → Cache → Stage × Cache
  | 0, s, c => (s, c)
  | n + 1, s, c =>
    let (s, c) := s.advance choice d c
    s.steps choice d n c

/-- A whole call; five steps are enough. -/
def perform (c : Cache) (choice : Nat) (d : Credentials) : Stage × Cache :=
  Stage.waiting.steps choice d 5 c

theorem perform_eq (c : Cache) (choice : Nat) (d : Credentials) :
    c.perform choice d =
      match c.getOrConnect choice d with
      | .ok (client, next) => (.done (.ok client), next)
      | .error e => (.done (.error e), c) := by
  rcases getOrConnect_cases c choice d with
    ⟨client, hf, hg⟩ | ⟨client, hf, hc, hg⟩ | ⟨e, hf, hc, hg⟩
  · simp [perform, Stage.steps, Stage.advance, hf, hg]
  · rw [hg]
    by_cases hfull : c.isFull = true
    · cases hv : c.victim? choice <;>
        simp [perform, Stage.steps, Stage.advance, hf, hc, hfull, hv, makeRoom]
    · simp [perform, Stage.steps, Stage.advance, hf, hc, hfull, makeRoom]
  · simp [perform, Stage.steps, Stage.advance, hf, hc, hg]

end RestGateway.Cache

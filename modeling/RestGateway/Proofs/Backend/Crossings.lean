import Mathlib.Data.List.Perm.Basic
import RestGateway.Proofs.Backend.Steps

/-!
# Calls for clients at the same time

Several calls may be on their way over one cache, with their steps in any order. Each looks for room
once and then adds its client, so those that look before another one adds all count on the same
room. A cache may hold more clients than it has room for, but not more of them than were added while
another call was between its look and its addition.
-/

set_option autoImplicit false

namespace RestGateway.Cache

/-- Whether a call has looked for room and has its client still to add. -/
def Stage.isPending : Stage → Bool
  | .crowded _ | .evicting _ _ | .placing _ => true
  | .waiting | .missed _ | .done _ => false

def Stage.isIdle : Stage → Bool
  | .waiting | .done _ => true
  | .missed _ | .crowded _ | .evicting _ _ | .placing _ => false

def Stage.isPlacing : Stage → Bool
  | .placing _ => true
  | _ => false

/-- Calls over one cache, each with its caller. -/
structure Traffic where
  cache : Cache
  calls : List (Credentials × Stage)

structure Move where
  call : Nat
  choice : Nat

namespace Traffic

def start (c : Cache) (callers : List Credentials) : Traffic :=
  ⟨c, callers.map fun d => (d, .waiting)⟩

def step (t : Traffic) (m : Move) : Traffic :=
  match t.calls[m.call]? with
  | some (d, s) =>
    let (s, c) := s.advance m.choice d t.cache
    ⟨c, t.calls.set m.call (d, s)⟩
  | none => t

def run (t : Traffic) (moves : List Move) : Traffic := moves.foldl step t

def isIdle (t : Traffic) : Bool := t.calls.all fun call => call.2.isIdle

/-- Whether a move adds a client while another call has looked for room and has still to add its
own. -/
def crosses (t : Traffic) (m : Move) : Bool :=
  (t.calls[m.call]?.any fun call => call.2.isPlacing) &&
    (t.calls.eraseIdx m.call).any fun call => call.2.isPending

def crossings (t : Traffic) : List Move → Nat
  | [] => 0
  | m :: moves => (t.crosses m).toNat + (t.step m).crossings moves

end Traffic

/-- What a call that has looked for room can count on, where `excess` clients may be kept beyond the
capacity: there is room for its own, or the entry that it gives up is still there. -/
def Stage.Backed (excess : Nat) (c : Cache) : Stage → Prop
  | .evicting _ k => k ∈ c.keys ∨ c.size < c.capacity + excess
  | .placing _ => c.size < c.capacity + excess
  | .waiting | .missed _ | .crowded _ | .done _ => True

variable {c : Cache} {excess : Nat} {s : Stage}

theorem backed_room (h : c.size < c.capacity + excess) : s.Backed excess c := by
  cases s with
  | evicting => exact Or.inr h
  | placing => exact h
  | waiting | missed | crowded | done => trivial

theorem backed_idle (h : s.isPending = false) : s.Backed excess c := by
  cases s with
  | waiting | missed | done => trivial
  | crowded | evicting | placing => cases h

theorem backed_remove (k : String) (hs : c.size ≤ c.capacity + excess) (h : s.Backed excess c) :
    s.Backed excess (c.remove k) := by
  have hle := size_remove_le c k
  cases s with
  | evicting client victim =>
    rcases h with hin | hroom
    · by_cases heq : victim = k
      · subst heq
        have hlt := size_remove_lt hin
        exact Or.inr (Nat.lt_of_lt_of_le hlt hs)
      · refine Or.inl ?_
        rw [keys_remove]
        exact List.mem_filter.mpr ⟨hin, bne_iff_ne.mpr heq⟩
    · exact Or.inr (Nat.lt_of_le_of_lt hle hroom)
  | placing client => exact Nat.lt_of_le_of_lt hle h
  | waiting | missed | crowded | done => trivial

/-- The clients beyond the capacity are `excess` at most, and what every call counts on is there. -/
structure Covered (excess : Nat) (t : Traffic) : Prop where
  room : 1 ≤ t.cache.capacity
  size : t.cache.size ≤ t.cache.capacity + excess
  backed : ∀ call ∈ t.calls, call.2.Backed excess t.cache

section Step

variable {d : Credentials} {others : List (Credentials × Stage)}

theorem covered_next (next : Stage) (h : Covered excess ⟨c, (d, s) :: others⟩)
    (hn : next.Backed excess c) : Covered excess ⟨c, (d, next) :: others⟩ :=
  ⟨h.room, h.size, List.forall_mem_cons.mpr ⟨hn, (List.forall_mem_cons.mp h.backed).2⟩⟩

theorem remove_covered {client : Client} {k : String}
    (h : Covered excess ⟨c, (d, .evicting client k) :: others⟩) :
    Covered excess ⟨c.remove k, (d, .placing client) :: others⟩ := by
  obtain ⟨hmine, hothers⟩ := List.forall_mem_cons.mp h.backed
  have hle := size_remove_le c k
  have hlt : (c.remove k).size < c.capacity + excess := by
    rcases hmine with hin | hroom
    · exact Nat.lt_of_lt_of_le (size_remove_lt hin) h.size
    · exact Nat.lt_of_le_of_lt hle hroom
  refine ⟨h.room, Nat.le_trans hle h.size, List.forall_mem_cons.mpr ⟨hlt, ?_⟩⟩
  intro call hc
  exact backed_remove k h.size (hothers call hc)

/-- A client comes in on room that others may have counted on: then it is one more beyond the
capacity, which leaves them as much room as there was. -/
theorem insert_covered {client : Client} (k : String)
    (h : Covered excess ⟨c, (d, .placing client) :: others⟩) :
    Covered (excess + (others.any fun call => call.2.isPending).toNat)
      ⟨c.insert k client, (d, .done (.ok client)) :: others⟩ := by
  have hroom : c.size < c.capacity + excess := h.backed _ List.mem_cons_self
  have hle := size_insert_le c k client
  cases hp : others.any fun call => call.2.isPending with
  | false =>
    refine ⟨h.room, Nat.le_trans hle hroom, List.forall_mem_cons.mpr ⟨trivial, ?_⟩⟩
    intro call hc
    exact backed_idle (Bool.eq_false_iff.mpr (List.any_eq_false.mp hp call hc))
  | true =>
    have hlt : (c.insert k client).size < (c.insert k client).capacity + (excess + 1) := by
      rw [insert_capacity]
      omega
    exact ⟨h.room, Nat.le_of_lt hlt, fun call _ => backed_room hlt⟩

theorem advance_covered (choice : Nat) (h : Covered excess ⟨c, (d, s) :: others⟩) :
    Covered (excess + (s.isPlacing && others.any fun call => call.2.isPending).toNat)
      ⟨(s.advance choice d c).2, (d, (s.advance choice d c).1) :: others⟩ := by
  have hroom : 1 ≤ c.capacity := h.room
  cases s with
  | waiting =>
    simp only [Stage.advance]
    cases c.find? (c.key d) with
    | some client => exact covered_next _ h trivial
    | none => cases c.connect d <;> exact covered_next _ h trivial
  | missed client =>
    simp only [Stage.advance]
    by_cases hfull : c.isFull = true
    · rw [if_pos hfull]
      exact covered_next _ h trivial
    · rw [if_neg hfull]
      refine covered_next _ h ?_
      have hless : c.size < c.capacity := Nat.lt_of_not_le fun hle => hfull (decide_eq_true hle)
      exact Nat.lt_add_right excess hless
  | crowded client =>
    simp only [Stage.advance]
    cases hv : c.victim? choice with
    | some k => exact covered_next _ h (Or.inl (victim_mem hv))
    | none =>
      refine covered_next _ h ?_
      show c.size < c.capacity + excess
      rw [victim_none hv]
      omega
  | evicting client k => exact remove_covered h
  | placing client => exact insert_covered _ h
  | done result => exact covered_next _ h trivial

end Step

namespace Traffic

variable {t : Traffic}

theorem covered_perm {calls others : List (Credentials × Stage)} (hp : calls.Perm others)
    (h : Covered excess ⟨c, calls⟩) : Covered excess ⟨c, others⟩ :=
  ⟨h.room, h.size, fun call hc => h.backed call (hp.mem_iff.mpr hc)⟩

theorem step_covered (m : Move) (h : Covered excess t) :
    Covered (excess + (t.crosses m).toNat) (t.step m) := by
  obtain ⟨c, calls⟩ := t
  cases hm : calls[m.call]? with
  | none => simpa [step, crosses, hm] using h
  | some call =>
    obtain ⟨d, s⟩ := call
    obtain ⟨hlt, hget⟩ := List.getElem?_eq_some_iff.mp hm
    have hbefore := (List.getElem_cons_eraseIdx_perm hlt).symm
    rw [hget] at hbefore
    have hafter := List.set_perm_cons_eraseIdx hlt (d, (s.advance m.choice d c).1)
    simpa [step, crosses, hm] using
      covered_perm hafter.symm (advance_covered m.choice (covered_perm hbefore h))

theorem run_covered (moves : List Move) (h : Covered excess t) :
    Covered (excess + t.crossings moves) (t.run moves) := by
  induction moves generalizing t excess with
  | nil => exact h
  | cons m moves ih =>
    have hnext := ih (step_covered m h)
    rw [Nat.add_assoc] at hnext
    exact hnext

theorem start_covered (host apiPath : String) (limit : Nat) (callers : List Credentials) :
    Covered 0 (start (make host apiPath limit) callers) := by
  refine ⟨Nat.le_max_right limit 1, Nat.zero_le _, ?_⟩
  intro call hc
  obtain ⟨d, -, rfl⟩ := List.mem_map.mp hc
  trivial

theorem step_capacity (t : Traffic) (m : Move) :
    (t.step m).cache.capacity = t.cache.capacity := by
  unfold step
  split
  · next d s _ => exact advance_capacity m.choice d t.cache s
  · rfl

theorem run_capacity (t : Traffic) (moves : List Move) :
    (t.run moves).cache.capacity = t.cache.capacity := by
  induction moves generalizing t with
  | nil => rfl
  | cons m moves ih => exact (ih (t.step m)).trans (step_capacity t m)

/-- In whatever order the steps of any number of calls come, a new cache never holds more clients
beyond its capacity than were added while another call had looked for room and had still to add its
own. -/
theorem run_size (host apiPath : String) (limit : Nat) (callers : List Credentials)
    (moves : List Move) :
    let t := start (make host apiPath limit) callers
    (t.run moves).cache.size ≤ max limit 1 + t.crossings moves := by
  intro t
  have h := (run_covered moves (start_covered host apiPath limit callers)).size
  rw [run_capacity, Nat.zero_add] at h
  exact h

def crossed : List Move := [⟨0, 0⟩, ⟨1, 0⟩, ⟨0, 0⟩, ⟨1, 0⟩, ⟨0, 0⟩, ⟨1, 0⟩]

theorem run_crossed :
    let t := (start (make "http://a" "/api3/json" 1) [.script "a" "k", .script "b" "k"]).run crossed
    t.isIdle = true ∧ t.cache.capacity = 1 ∧ t.cache.size = 2 := by
  decide +kernel

end Traffic

end RestGateway.Cache

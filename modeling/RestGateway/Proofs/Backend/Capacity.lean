import Mathlib.Data.List.Nodup
import Mathlib.Data.List.Perm.Basic
import RestGateway.Proofs.Backend.Steps

/-!
# Room for clients

Calls that come one after the other never leave more clients in a cache than it has room for. Such a
call changes nothing if its client is there or cannot be made. Otherwise the new client comes in,
and one of the others, whichever it is, goes out exactly when there is no room for all.
-/

set_option autoImplicit false

namespace RestGateway.Cache

/-- What becomes of the entries when one under a new key is added. -/
inductive Added (capacity : Nat) (new : String × Client) (before after : List (String × Client)) :
    Prop
  | room (h : before.length < capacity) (ha : after = new :: before)
  | exchange (victim : String × Client) (kept : List (String × Client))
      (h : before.length = capacity) (hb : before.Perm (victim :: kept)) (ha : after = new :: kept)

/-- What a call of `d` may come to. -/
inductive Performed (c : Cache) (d : Credentials) : Stage × Cache → Prop
  | held (client : Client) (hf : c.find? (c.key d) = some client) :
    Performed c d (.done (.ok client), c)
  | made (client : Client) (next : Cache) (hf : c.find? (c.key d) = none)
      (hc : c.connect d = .ok client) (hn : next.find? (c.key d) = some client)
      (ha : Added c.capacity (c.key d, client) c.entries next.entries) :
    Performed c d (.done (.ok client), next)
  | failed (e : CallError) (hf : c.find? (c.key d) = none) (hc : c.connect d = .error e) :
    Performed c d (.done (.error e), c)

/-- There is room for one client at least, no key has two entries, and no more clients are kept than
there is room for. -/
structure Bounded (c : Cache) : Prop where
  room : 1 ≤ c.capacity
  distinct : c.keys.Nodup
  size : c.size ≤ c.capacity

variable {c : Cache}

theorem remove_absent {k : String} (h : k ∉ c.keys) : c.remove k = c := by
  have hf : c.entries.filter (fun e => e.1 != k) = c.entries := by
    refine List.filter_eq_self.mpr fun e he => bne_iff_ne.mpr ?_
    rintro rfl
    exact h (List.mem_map_of_mem he)
  rw [remove, hf]

theorem insert_absent {k : String} (client : Client) (h : k ∉ c.keys) :
    (c.insert k client).entries = (k, client) :: c.entries := by
  rw [insert, remove_absent h]

theorem perm_remove {e : String × Client} (hd : c.keys.Nodup) (he : e ∈ c.entries) :
    c.entries.Perm (e :: (c.remove e.1).entries) := by
  obtain ⟨l, m, hlm⟩ := List.append_of_mem he
  have hp : c.entries.Perm (e :: (l ++ m)) := hlm ▸ List.perm_middle
  have hk : (e.1 :: (l ++ m).map Prod.fst).Nodup := (hp.map Prod.fst).nodup_iff.mp hd
  have hne : ∀ x ∈ l ++ m, (x.1 != e.1) = true := by
    intro x hx
    refine bne_iff_ne.mpr fun heq => (List.nodup_cons.mp hk).1 ?_
    exact heq ▸ List.mem_map_of_mem hx
  have hf := hp.filter fun x => x.1 != e.1
  rw [List.filter_cons_of_neg (by simp), List.filter_eq_self.mpr hne] at hf
  exact hp.trans (hf.symm.cons e)

theorem makeRoom_cases (h : Bounded c) (choice : Nat) :
    (c.size < c.capacity ∧ c.makeRoom choice = c) ∨
      ∃ victim, c.size = c.capacity ∧ c.entries.Perm (victim :: (c.makeRoom choice).entries) := by
  by_cases hfull : c.isFull = true
  · have hsize : c.size = c.capacity := Nat.le_antisymm h.size (of_decide_eq_true hfull)
    cases hv : c.victim? choice with
    | none =>
      have hnone := victim_none hv
      have hroom := h.room
      omega
    | some k =>
      obtain ⟨e, he, rfl⟩ := Option.map_eq_some_iff.mp hv
      refine Or.inr ⟨e, hsize, ?_⟩
      rw [makeRoom, if_pos hfull, hv]
      exact perm_remove h.distinct (List.mem_of_getElem? he)
  · have hless : c.size < c.capacity := Nat.lt_of_not_le fun hle => hfull (decide_eq_true hle)
    exact Or.inl ⟨hless, by rw [makeRoom, if_neg hfull]⟩

theorem insert_added (h : Bounded c) (choice : Nat) {k : String} (client : Client)
    (hk : k ∉ c.keys) :
    Added c.capacity (k, client) c.entries ((c.makeRoom choice).insert k client).entries := by
  rcases makeRoom_cases h choice with ⟨hless, hsame⟩ | ⟨victim, hsize, hp⟩
  · rw [hsame]
    exact .room hless (insert_absent client hk)
  · have hkept : k ∉ (c.makeRoom choice).keys := by
      intro hin
      exact hk ((hp.map Prod.fst).mem_iff.mpr (List.mem_cons_of_mem _ hin))
    exact .exchange victim _ hsize hp (insert_absent client hkept)

theorem find_insert (k : String) (client : Client) : (c.insert k client).find? k = some client := by
  simp [find?, insert]

theorem perform_performed (h : Bounded c) (choice : Nat) (d : Credentials) :
    Performed c d (c.perform choice d) := by
  rw [perform_eq]
  rcases getOrConnect_cases c choice d with
    ⟨client, hf, hg⟩ | ⟨client, hf, hc, hg⟩ | ⟨e, hf, hc, hg⟩
  · rw [hg]
    exact .held client hf
  · rw [hg]
    have ha := insert_added h choice client (find_none.mp hf)
    exact .made client _ hf hc (find_insert _ client) ha
  · rw [hg]
    exact .failed e hf hc

theorem Added.distinct {capacity : Nat} {new : String × Client}
    {before after : List (String × Client)} (h : Added capacity new before after)
    (hn : new.1 ∉ before.map Prod.fst) (hd : (before.map Prod.fst).Nodup) :
    (after.map Prod.fst).Nodup := by
  cases h with
  | room _ ha =>
    rw [ha]
    exact List.nodup_cons.mpr ⟨hn, hd⟩
  | exchange victim kept _ hb ha =>
    have hp := hb.map Prod.fst
    have hkept := (List.nodup_cons.mp (hp.nodup_iff.mp hd)).2
    rw [ha]
    exact List.nodup_cons.mpr ⟨fun hin => hn (hp.mem_iff.mpr (List.mem_cons_of_mem _ hin)), hkept⟩

theorem Added.length {capacity : Nat} {new : String × Client}
    {before after : List (String × Client)} (h : Added capacity new before after) :
    after.length ≤ capacity := by
  cases h with
  | room hless ha =>
    rw [ha]
    exact hless
  | exchange victim kept hsize hb ha =>
    rw [ha, ← hsize, hb.length_eq]
    exact Nat.le_refl _

structure Family.Within (capacity : Nat) (f : Family) : Prop where
  room : 1 ≤ capacity
  handles : ∀ h ∈ f.handles, h.capacity = capacity
  distinct : (f.entries.map Prod.fst).Nodup
  size : f.entries.length ≤ capacity

variable {capacity : Nat} {f : Family} {h : Handle}

theorem through_bounded (hf : f.Within capacity) (hh : h ∈ f.handles) : Bounded (f.through h) := by
  have hc : (f.through h).capacity = capacity := hf.handles h hh
  exact ⟨hc ▸ hf.room, hf.distinct, hc ▸ hf.size⟩

theorem call_perform (f : Family) (h : Handle) (choice : Nat) (d : Credentials) :
    (f.call h choice d).entries = ((f.through h).perform choice d).2.entries := by
  rw [perform_eq, Family.call]
  cases (f.through h).getOrConnect choice d <;> rfl

theorem call_within (hf : f.Within capacity) (hh : h ∈ f.handles) (choice : Nat) (d : Credentials) :
    ((f.call h choice d).entries.map Prod.fst).Nodup ∧
      (f.call h choice d).entries.length ≤ capacity := by
  have hp := perform_performed (through_bounded hf hh) choice d
  rw [call_perform]
  generalize (f.through h).perform choice d = result at hp
  cases hp with
  | held | failed => exact ⟨hf.distinct, hf.size⟩
  | made client next hnew _ _ ha =>
    have hlen := ha.length
    rw [show (f.through h).capacity = capacity from hf.handles h hh] at hlen
    exact ⟨ha.distinct (find_none.mp hnew) hf.distinct, hlen⟩

theorem step_within (e : Event) (hf : f.Within capacity) : (f.step e).Within capacity := by
  cases e with
  | clone i =>
    simp only [Family.step]
    cases hi : f.handles[i]? with
    | none => exact hf
    | some h =>
      refine ⟨hf.room, ?_, hf.distinct, hf.size⟩
      intro g hg
      rcases List.mem_append.mp hg with hg | hg
      · exact hf.handles g hg
      · obtain rfl := List.mem_singleton.mp hg
        exact hf.handles g (List.mem_of_getElem? hi)
  | call i choice d =>
    have hh : (f.step (.call i choice d)).handles = f.handles :=
      Family.step_call_handles f i choice d
    simp only [Family.step] at hh ⊢
    cases hi : f.handles[i]? with
    | none => exact hf
    | some h =>
      obtain ⟨hdistinct, hsize⟩ := call_within hf (List.mem_of_getElem? hi) choice d
      rw [hi] at hh
      exact ⟨hf.room, hh ▸ hf.handles, hdistinct, hsize⟩

theorem run_within (events : List Event) (hf : f.Within capacity) :
    (f.run events).Within capacity := by
  induction events generalizing f with
  | nil => exact hf
  | cons e events ih => exact ih (step_within e hf)

theorem start_within (host apiPath : String) (limit : Nat) :
    (Family.start (make host apiPath limit)).Within (max limit 1) := by
  refine ⟨Nat.le_max_right limit 1, ?_, List.nodup_nil, Nat.zero_le _⟩
  intro h hh
  obtain rfl := List.mem_singleton.mp hh
  rfl

/-- After any run of calls through a cache and its clones, all of them hold the same number of
clients, which is never above the capacity, and a further call does one of three things: it finds
its client and changes nothing, or it adds one, for which another goes out exactly when the cache is
full, or it fails and changes nothing. -/
theorem reached_capacity (host apiPath : String) (limit : Nat) (events : List Event) :
    let f := Family.reached host apiPath limit events
    (f.entries.map Prod.fst).Nodup ∧ f.entries.length ≤ max limit 1 ∧
      ∀ h ∈ f.handles, h.capacity = max limit 1 ∧ (f.through h).size = f.entries.length ∧
        ∀ choice d, Performed (f.through h) d ((f.through h).perform choice d) ∧
          (f.call h choice d).entries = ((f.through h).perform choice d).2.entries := by
  intro f
  have hf : f.Within (max limit 1) := run_within events (start_within host apiPath limit)
  refine ⟨hf.distinct, hf.size, fun h hh => ⟨hf.handles h hh, rfl, fun choice d => ?_⟩⟩
  exact ⟨perform_performed (through_bounded hf hh) choice d, call_perform f h choice d⟩

theorem reached_capacity_eviction :
    let f := Family.reached "http://a" "/api3/json" 1 eviction
    ∃ h ∈ f.handles, (f.through h).size = f.entries.length ∧
      Performed (f.through h) (.script "b" "k") ((f.through h).perform 0 (.script "b" "k")) := by
  intro f
  have hh : (⟨"http://a", "/api3/json", 1⟩ : Handle) ∈ f.handles := by
    simp [f, Family.reached, Family.run, eviction, Family.start, make]
  obtain ⟨-, hsize, hp⟩ := (reached_capacity "http://a" "/api3/json" 1 eviction).2.2 _ hh
  exact ⟨_, hh, hsize, (hp 0 (.script "b" "k")).1⟩

end RestGateway.Cache

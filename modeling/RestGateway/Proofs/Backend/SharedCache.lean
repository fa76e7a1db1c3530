import Mathlib.Data.Set.Function
import RestGateway.Proofs.Backend.KeyMaterial

/-!
# A cache and its clones

Clones have settings of their own and entries in common. However many calls went before, through
whatever clones and with whatever entries given up, every entry is filed under the key of the very
caller that its client carries. So a cached client is the one that would be made afresh.
-/

set_option autoImplicit false

namespace RestGateway.Cache

/-- Every entry is a client of this address for one of the known callers, under this caller's key. -/
def Filed (host apiPath : String) (known : List Credentials) (entries : List (String × Client)) :
    Prop :=
  ∀ e ∈ entries, ∃ c ∈ known,
    e.1 = CacheKey.make host c ∧ Client.make host apiPath c = .ok e.2

variable {host apiPath : String} {known : List Credentials}

theorem filed_nil : Filed host apiPath known [] := List.forall_mem_nil _

theorem filed_remove {c : Cache} (k : String) (h : Filed host apiPath known c.entries) :
    Filed host apiPath known (c.remove k).entries := by
  intro e he
  exact h e (List.mem_filter.mp he).1

theorem filed_makeRoom {c : Cache} (choice : Nat) (h : Filed host apiPath known c.entries) :
    Filed host apiPath known (c.makeRoom choice).entries := by
  unfold makeRoom
  split_ifs
  · cases c.victim? choice with
    | none => exact h
    | some k => exact filed_remove k h
  · exact h

theorem filed_insert {c : Cache} {d : Credentials} {client : Client} (hd : d ∈ known)
    (hc : Client.make host apiPath d = .ok client) (h : Filed host apiPath known c.entries) :
    Filed host apiPath known (c.insert (CacheKey.make host d) client).entries := by
  intro e he
  rcases List.mem_cons.mp he with rfl | he
  · exact ⟨d, hd, rfl, hc⟩
  · exact filed_remove _ h e he

theorem find_mem {c : Cache} {k : String} {client : Client} (h : c.find? k = some client) :
    (k, client) ∈ c.entries := by
  obtain ⟨l, m, he, -⟩ := List.lookup_eq_some_iff.mp h
  rw [he]
  exact List.mem_append_right l List.mem_cons_self

/-- What a call does: it finds a client and changes nothing, or makes one and keeps it, or fails to
make one. -/
theorem getOrConnect_cases (c : Cache) (choice : Nat) (d : Credentials) :
    (∃ client, c.find? (c.key d) = some client ∧ c.getOrConnect choice d = .ok (client, c)) ∨
    (∃ client, c.find? (c.key d) = none ∧ c.connect d = .ok client ∧
      c.getOrConnect choice d = .ok (client, (c.makeRoom choice).insert (c.key d) client)) ∨
    (∃ e, c.find? (c.key d) = none ∧ c.connect d = .error e ∧
      c.getOrConnect choice d = .error e) := by
  simp only [getOrConnect]
  cases hf : c.find? (c.key d) with
  | some client => exact Or.inl ⟨client, rfl, rfl⟩
  | none =>
    cases hc : c.connect d with
    | ok client => exact Or.inr (Or.inl ⟨client, rfl, rfl, rfl⟩)
    | error e => exact Or.inr (Or.inr ⟨e, rfl, rfl, rfl⟩)

theorem getOrConnect_filed {c next : Cache} {client : Client} (choice : Nat) {d : Credentials}
    (hd : d ∈ known) (h : Filed c.host c.apiPath known c.entries)
    (hr : c.getOrConnect choice d = .ok (client, next)) :
    Filed c.host c.apiPath known next.entries := by
  rcases getOrConnect_cases c choice d with ⟨found, -, hg⟩ | ⟨made, -, hc, hg⟩ | ⟨e, -, -, hg⟩
  · rw [hg] at hr
    cases hr
    exact h
  · rw [hg] at hr
    cases hr
    exact filed_insert hd hc (filed_makeRoom choice h)
  · rw [hg] at hr
    cases hr

/-- The digest tells these callers' material apart. -/
def CollisionFree (host : String) (known : List Credentials) : Prop :=
  Set.InjOn Blake3.hash {m | ∃ d ∈ known, m = CacheKey.material host d}

theorem getOrConnect_fresh {c : Cache} (choice : Nat) {d : Credentials} (hd : d ∈ known)
    (h : Filed c.host c.apiPath known c.entries) (hf : ∀ d ∈ known, CacheKey.Holds d)
    (hx : CollisionFree c.host known) :
    (c.getOrConnect choice d).map Prod.fst = c.connect d := by
  rcases getOrConnect_cases c choice d with ⟨found, hk, hg⟩ | ⟨made, -, hc, hg⟩ | ⟨e, -, hc, hg⟩
  · obtain ⟨owner, ho, hkey, hmade⟩ := h _ (find_mem hk)
    have hm := hx ⟨d, hd, rfl⟩ ⟨owner, ho, rfl⟩ (CacheKey.make_digest hkey)
    obtain rfl := CacheKey.material_inj (hf d hd) (hf owner ho) hm
    rw [hg]
    exact hmade.symm
  · rw [hg, hc]
    rfl
  · rw [hg, hc]
    rfl

structure Handle where
  host : String
  apiPath : String
  capacity : Nat

/-- A cache with all its clones. -/
structure Family where
  handles : List Handle
  entries : List (String × Client)

/-- What may happen to a family: a handle is cloned, or called. -/
inductive Event where
  | clone (handle : Nat)
  | call (handle choice : Nat) (caller : Credentials)

namespace Family

def through (f : Family) (h : Handle) : Cache := ⟨h.host, h.apiPath, h.capacity, f.entries⟩

def start (c : Cache) : Family := ⟨[⟨c.host, c.apiPath, c.capacity⟩], c.entries⟩

def call (f : Family) (h : Handle) (choice : Nat) (d : Credentials) : Family :=
  match (f.through h).getOrConnect choice d with
  | .ok (_, next) => { f with entries := next.entries }
  | .error _ => f

def step (f : Family) : Event → Family
  | .clone i =>
    match f.handles[i]? with
    | some h => { f with handles := f.handles ++ [h] }
    | none => f
  | .call i choice d =>
    match f.handles[i]? with
    | some h => f.call h choice d
    | none => f

def run (f : Family) (events : List Event) : Family := events.foldl step f

/-- What becomes of a new cache. -/
def reached (host apiPath : String) (limit : Nat) (events : List Event) : Family :=
  (start (make host apiPath limit)).run events

end Family

@[simp] theorem Family.step_call_handles (f : Family) (i choice : Nat) (d : Credentials) :
    (f.step (.call i choice d)).handles = f.handles := by
  simp only [step]
  cases f.handles[i]? with
  | none => rfl
  | some h =>
    simp only [call]
    cases (f.through h).getOrConnect choice d <;> rfl

@[simp] theorem Family.step_clone_handles (f : Family) (i : Nat) :
    (f.step (.clone i)).handles = f.handles ++ f.handles[i]?.toList := by
  simp only [step]
  cases f.handles[i]? <;> simp

def Event.caller? : Event → Option Credentials
  | .clone _ => none
  | .call _ _ d => some d

/-- A family whose handles have one address and whose entries are filed. -/
structure Sound (host apiPath : String) (known : List Credentials) (f : Family) : Prop where
  address : ∀ h ∈ f.handles, h.host = host ∧ h.apiPath = apiPath
  filed : Filed host apiPath known f.entries

theorem start_sound (host apiPath : String) (limit : Nat) (known : List Credentials) :
    Sound host apiPath known (.start (make host apiPath limit)) := by
  refine ⟨?_, filed_nil⟩
  intro h hh
  obtain rfl := List.mem_singleton.mp hh
  exact ⟨rfl, rfl⟩

theorem call_sound {f : Family} {h : Handle} (choice : Nat) {d : Credentials} (hd : d ∈ known)
    (hh : h ∈ f.handles) (hs : Sound host apiPath known f) :
    Sound host apiPath known (f.call h choice d) := by
  obtain ⟨rfl, rfl⟩ := hs.address h hh
  unfold Family.call
  cases hr : (f.through h).getOrConnect choice d with
  | error e => exact hs
  | ok p =>
    obtain ⟨client, next⟩ := p
    have hn := getOrConnect_filed (c := f.through h) choice hd hs.filed hr
    exact ⟨hs.address, hn⟩

theorem step_sound {f : Family} (e : Event) (he : ∀ d ∈ e.caller?, d ∈ known)
    (hs : Sound host apiPath known f) : Sound host apiPath known (f.step e) := by
  cases e with
  | clone i =>
    simp only [Family.step]
    cases hi : f.handles[i]? with
    | none => exact hs
    | some h =>
      refine ⟨?_, hs.filed⟩
      intro g hg
      rcases List.mem_append.mp hg with hg | hg
      · exact hs.address g hg
      · obtain rfl := List.mem_singleton.mp hg
        exact hs.address g (List.mem_of_getElem? hi)
  | call i choice d =>
    simp only [Family.step]
    cases hi : f.handles[i]? with
    | none => exact hs
    | some h => exact call_sound choice (he d rfl) (List.mem_of_getElem? hi) hs

theorem run_sound {f : Family} (events : List Event)
    (he : ∀ d ∈ events.filterMap Event.caller?, d ∈ known)
    (hs : Sound host apiPath known f) : Sound host apiPath known (f.run events) := by
  induction events generalizing f with
  | nil => exact hs
  | cons e events ih =>
    have hfirst : ∀ d ∈ e.caller?, d ∈ known := by
      intro d hd
      exact he d (List.mem_filterMap.mpr ⟨e, List.mem_cons_self, hd⟩)
    have hrest : ∀ d ∈ events.filterMap Event.caller?, d ∈ known := by
      intro d hd
      obtain ⟨e', he', hd⟩ := List.mem_filterMap.mp hd
      exact he d (List.mem_filterMap.mpr ⟨e', List.mem_cons_of_mem e he', hd⟩)
    exact ih hrest (step_sound e hfirst hs)

theorem serverUrl_error {e : CallError} (h : serverUrl host apiPath = .error e) :
    e = .invalidHost host := by
  unfold serverUrl at h
  split_ifs at h
  · split at h
    · cases h
    · exact (Except.error.inj h).symm
  · exact (Except.error.inj h).symm

theorem connect_cases (c : Cache) (d : Credentials) :
    (∃ url, serverUrl c.host c.apiPath = .ok url ∧ c.connect d = .ok ⟨url, d⟩) ∨
      (serverUrl c.host c.apiPath = .error (.invalidHost c.host) ∧
        c.connect d = .error (.invalidHost c.host)) := by
  unfold connect Client.make
  cases hu : serverUrl c.host c.apiPath with
  | ok url => exact Or.inl ⟨url, rfl, rfl⟩
  | error e =>
    obtain rfl := serverUrl_error hu
    exact Or.inr ⟨rfl, rfl⟩

/-- After any run of calls through a cache and its clones, a caller gets through any of them what a
client made afresh is: the caller's own credentials at the server's address, or the refusal of the
host. The digest is assumed to tell the callers of the run apart. -/
theorem reached_connect (host apiPath : String) (limit : Nat) (events : List Event) (h : Handle)
    (choice : Nat) (c : Credentials)
    (hh : h ∈ (Family.reached host apiPath limit events).handles)
    (hf : ∀ d ∈ c :: events.filterMap Event.caller?, CacheKey.Holds d)
    (hx : CollisionFree host (c :: events.filterMap Event.caller?)) :
    let cache := (Family.reached host apiPath limit events).through h
    (cache.getOrConnect choice c).map Prod.fst = cache.connect c ∧
      ((∃ url, serverUrl host apiPath = .ok url ∧ cache.connect c = .ok ⟨url, c⟩) ∨
        (serverUrl host apiPath = .error (.invalidHost host) ∧
          cache.connect c = .error (.invalidHost host))) := by
  intro cache
  have hs : Sound host apiPath (c :: events.filterMap Event.caller?)
      (Family.reached host apiPath limit events) :=
    run_sound events (fun d hd => List.mem_cons_of_mem c hd) (start_sound host apiPath limit _)
  obtain ⟨rfl, rfl⟩ := hs.address h hh
  constructor
  · exact getOrConnect_fresh (c := cache) choice List.mem_cons_self hs.filed hf hx
  · exact connect_cases cache c

def eviction : List Event :=
  [.call 0 0 (.script "a" "k"), .clone 0, .call 1 0 (.user "a" "k")]

theorem reached_connect_eviction :
    let cache := (Family.reached "http://a" "/api3/json" 1 eviction).through
      ⟨"http://a", "/api3/json", 1⟩
    (cache.getOrConnect 0 (.script "a" "k")).map Prod.fst = cache.connect (.script "a" "k") := by
  have hh : (⟨"http://a", "/api3/json", 1⟩ : Handle) ∈
      (Family.reached "http://a" "/api3/json" 1 eviction).handles := by
    simp [Family.reached, Family.run, eviction, Family.start, make]
  have hne : Blake3.hash (CacheKey.material "http://a" (.script "a" "k")) ≠
      Blake3.hash (CacheKey.material "http://a" (.user "a" "k")) := by
    decide +kernel
  have hx : CollisionFree "http://a"
      (.script "a" "k" :: eviction.filterMap Event.caller?) := by
    rintro _ ⟨d, hd, rfl⟩ _ ⟨e, he, rfl⟩ heq
    simp only [eviction, List.filterMap_cons, Event.caller?, List.filterMap_nil, List.mem_cons,
      List.not_mem_nil, or_false, or_self_left] at hd he
    rcases hd with rfl | rfl <;> rcases he with rfl | rfl
    · rfl
    · exact absurd heq hne
    · exact absurd heq.symm hne
    · rfl
  exact (reached_connect "http://a" "/api3/json" 1 eviction _ 0 (.script "a" "k") hh (by decide)
    hx).1

end RestGateway.Cache

import RestGateway.Proofs.Backend.SharedCache
import RestGateway.Proofs.Gateway.Requests

/-!
# What becomes of a gateway

Before a request is served, others were, and clients may have been asked for outside of any request.
Whatever happened, the gateway has the settings that it began with, and each cached client is filed
under the key of the caller whose credentials it carries.
-/

set_option autoImplicit false

namespace RestGateway

/-- The credentials for which a request needs a client; none if it leads to no entities or has no
usable ones. -/
def Http.Request.caller? (r : Http.Request) : Option Credentials :=
  match Route.ofPath? r.target.path with
  | some route =>
    if route.isForEntities then (Authorization.parse (r.headers.values "authorization")).toOption
    else none
  | none => none

namespace Gateway

/-- What may happen to a gateway. That an entry is forgotten is what others see of a request that
makes room for its client and has not filed it yet. -/
inductive Event where
  | serve (choice : Nat) (r : Http.Request)
  | connect (choice : Nat) (caller : Credentials)
  | forget (key : String)

def Event.caller? : Event → Option Credentials
  | .serve _ r => r.caller?
  | .connect _ c => some c
  | .forget _ => none

def connected (g : Gateway) (choice : Nat) (c : Credentials) : Gateway :=
  match g.clients.getOrConnect choice c with
  | .ok (_, clients) => { g with clients }
  | .error _ => g

def step (g : Gateway) : Event → Gateway
  | .serve choice r => (g.serve choice r).2
  | .connect choice c => g.connected choice c
  | .forget key => { g with clients := g.clients.remove key }

def run (g : Gateway) (events : List Event) : Gateway := events.foldl step g

variable {g : Gateway} {choice : Nat} {r : Http.Request}

theorem entityPlan_state (g : Gateway) (choice limit : Nat) (r : Http.Request) (route : Route) :
    (Serve.entityPlan g choice limit r route).2 =
      match Authorization.parse (r.headers.values "authorization") with
      | .ok c => g.connected choice c
      | .error _ => g := by
  cases hc : Authorization.parse (r.headers.values "authorization") with
  | error e => rw [Serve.entityPlan_refused hc]
  | ok c =>
    cases h : g.clients.getOrConnect choice c with
    | error e => simp [Serve.entityPlan_unconnected hc h, connected, h]
    | ok p =>
      obtain ⟨client, clients⟩ := p
      rw [Serve.entityPlan_connected hc h]
      simp only [connected, h]
      split <;> rfl

/-- All that a request leaves behind is a client for its caller. -/
theorem serve_state (g : Gateway) (choice : Nat) (r : Http.Request) :
    (g.serve choice r).2 =
      match r.caller? with
      | some c => g.connected choice c
      | none => g := by
  cases hr : Route.ofPath? r.target.path with
  | none => simp [serve, Serve.plan, Http.Request.caller?, hr]
  | some route =>
    cases he : route.isForEntities with
    | false =>
      simp only [Http.Request.caller?, hr, he]
      cases route with
      | versions | icon => simp [serve, Serve.plan, hr]
      | collection | summary | entity | revival => cases he
    | true =>
      rw [serve_entities hr he, entityPlan_state]
      simp only [Http.Request.caller?, hr, he]
      cases Authorization.parse (r.headers.values "authorization") <;> rfl

end Gateway

theorem Cache.getOrConnect_address {c next : Cache} {client : Client} {choice : Nat}
    {d : Credentials} (h : c.getOrConnect choice d = .ok (client, next)) :
    next.host = c.host ∧ next.apiPath = c.apiPath := by
  have hroom : (c.makeRoom choice).host = c.host ∧ (c.makeRoom choice).apiPath = c.apiPath := by
    unfold Cache.makeRoom
    split
    · split <;> exact ⟨rfl, rfl⟩
    · exact ⟨rfl, rfl⟩
  rcases Cache.getOrConnect_cases c choice d with ⟨_, -, hg⟩ | ⟨_, -, -, hg⟩ | ⟨_, -, -, hg⟩
  · rw [hg] at h
    cases h
    exact ⟨rfl, rfl⟩
  · rw [hg] at h
    cases h
    exact hroom
  · rw [hg] at h
    cases h

namespace Gateway

/-- A gateway whose settings are those of `start` and whose cached clients, each filed under its
caller's key, belong to the known callers. -/
structure Sound (start : Gateway) (known : List Credentials) (g : Gateway) : Prop where
  formats : g.formats = start.formats
  host : g.clients.host = start.clients.host
  apiPath : g.clients.apiPath = start.clients.apiPath
  filed : Cache.Filed start.clients.host start.clients.apiPath known g.clients.entries

variable {start g : Gateway} {known : List Credentials}

theorem withFormats_sound {c : Config} {formats : Registry} (h : withFormats c formats = .ok start)
    (known : List Credentials) : Sound start known start := by
  unfold withFormats at h
  split at h
  · cases h
    exact ⟨rfl, rfl, rfl, Cache.filed_nil⟩
  · cases h

theorem connected_sound (choice : Nat) {c : Credentials} (hc : c ∈ known)
    (hs : Sound start known g) : Sound start known (g.connected choice c) := by
  unfold connected
  cases h : g.clients.getOrConnect choice c with
  | error e => exact hs
  | ok p =>
    obtain ⟨client, clients⟩ := p
    obtain ⟨hhost, hpath⟩ := Cache.getOrConnect_address h
    have hf : Cache.Filed g.clients.host g.clients.apiPath known g.clients.entries := by
      rw [hs.host, hs.apiPath]
      exact hs.filed
    have hn := Cache.getOrConnect_filed choice hc hf h
    rw [hs.host, hs.apiPath] at hn
    exact ⟨hs.formats, hhost.trans hs.host, hpath.trans hs.apiPath, hn⟩

theorem step_sound (e : Event) (he : ∀ c ∈ e.caller?, c ∈ known) (hs : Sound start known g) :
    Sound start known (g.step e) := by
  cases e with
  | serve choice r =>
    rw [step, serve_state]
    cases hr : r.caller? with
    | none => exact hs
    | some c => exact connected_sound choice (he c hr) hs
  | connect choice c => exact connected_sound choice (he c rfl) hs
  | forget key => exact ⟨hs.formats, hs.host, hs.apiPath, Cache.filed_remove key hs.filed⟩

theorem run_sound (events : List Event)
    (he : ∀ c ∈ events.filterMap Event.caller?, c ∈ known) (hs : Sound start known g) :
    Sound start known (g.run events) := by
  induction events generalizing g with
  | nil => exact hs
  | cons e events ih =>
    have hfirst : ∀ c ∈ e.caller?, c ∈ known := by
      intro c hc
      exact he c (List.mem_filterMap.mpr ⟨e, List.mem_cons_self, hc⟩)
    have hrest : ∀ c ∈ events.filterMap Event.caller?, c ∈ known := by
      intro c hc
      obtain ⟨e', he', hc⟩ := List.mem_filterMap.mp hc
      exact he c (List.mem_filterMap.mpr ⟨e', List.mem_cons_of_mem e he', hc⟩)
    exact ih hrest (step_sound e hfirst hs)

theorem client_credentials {clients : Cache} {client : Client} {c : Credentials} (choice : Nat)
    (hs : Sound start known g) (hc : c ∈ known) (hf : ∀ d ∈ known, CacheKey.Holds d)
    (hx : Cache.CollisionFree start.clients.host known)
    (h : g.clients.getOrConnect choice c = .ok (client, clients)) : client.credentials = c := by
  have hfiled : Cache.Filed g.clients.host g.clients.apiPath known g.clients.entries := by
    rw [hs.host, hs.apiPath]
    exact hs.filed
  have hfresh := Cache.getOrConnect_fresh choice hc hfiled hf (hs.host ▸ hx)
  rw [h] at hfresh
  have hmade : g.clients.connect c = .ok client := hfresh.symm
  rcases Cache.connect_cases g.clients c with ⟨url, -, hurl⟩ | ⟨-, hurl⟩
  · rw [hurl] at hmade
    cases hmade
    rfl
  · rw [hurl] at hmade
    cases hmade

end Gateway

end RestGateway

import Mathlib.Tactic.SplitIfs
import RestGateway.Gateway.Serve
import RestGateway.Proofs.Attempts
import RestGateway.Proofs.Gateway.Failures
import RestGateway.Proofs.Text.Numerals

/-!
# Tasks

A request that leads to entities asks for a task: an operation together with what the path, the
query and the body say. A request that asks for none is refused before the backend is involved.
Routes, methods and the reading of paths enter here only; what a task then does is the operation's
own business.
-/

set_option autoImplicit false

namespace RestGateway

inductive Task where
  | list (entityType : String) (ps : Parameters)
  | get (entityType : String) (id : Int) (ps : Parameters)
  | summarize (entityType : String) (ps : Parameters)
  | create (entityType : String) (body : List UInt8)
  | update (entityType : String) (id : Int) (body : List UInt8)
  | delete (entityType : String) (id : Int)
  | revive (entityType : String) (id : Int)

def Task.plan (client : Client) (formats : Registry) : Task → Plan
  | list entityType ps => Entities.list client formats entityType ps
  | get entityType id ps => Entities.get client entityType id ps
  | summarize entityType ps => Entities.summarize client formats entityType ps
  | create entityType body => Entities.create client entityType body
  | update entityType id body => Entities.update client entityType id body
  | delete entityType id => Entities.delete client entityType id
  | revive entityType id => Entities.revive client entityType id

def Route.isForEntities : Route → Bool
  | versions | icon => false
  | collection _ | summary _ | entity _ _ | revival _ _ => true

/-- The text of a path segment: its bytes without percent signs, where these are UTF-8. -/
def SegmentText (raw : List Char) (s : String) : Prop :=
  Utf8.string? (Percent.decode (Utf8.encode raw)) = some s

/-- The integer of a path segment: an optional sign and digits, within 64 bits. -/
def SegmentId (raw : List Char) (n : Int) : Prop :=
  ∃ s, SegmentText raw s ∧ Numeral s.toList n ∧ -2 ^ 63 ≤ n ∧ n < 2 ^ 63

/-- The task that a request asks for on a route, its body having `limit` bytes at most where one is
read. -/
inductive Asks (limit : Nat) (r : Http.Request) : Route → Task → Prop where
  | list {raw : List Char} {t : String} (hm : r.method = "GET" ∨ r.method = "HEAD")
      (ht : SegmentText raw t) :
      Asks limit r (.collection raw) (.list t (Http.Form.parse r.target.query))
  | create {raw : List Char} {t : String} (hm : r.method = "POST") (ht : SegmentText raw t)
      (hb : r.body.length ≤ limit) : Asks limit r (.collection raw) (.create t r.body)
  | summarize {raw : List Char} {t : String} (hm : r.method = "GET" ∨ r.method = "HEAD")
      (ht : SegmentText raw t) :
      Asks limit r (.summary raw) (.summarize t (Http.Form.parse r.target.query))
  | get {rawType rawId : List Char} {t : String} {n : Int}
      (hm : r.method = "GET" ∨ r.method = "HEAD") (ht : SegmentText rawType t)
      (hn : SegmentId rawId n) :
      Asks limit r (.entity rawType rawId) (.get t n (Http.Form.parse r.target.query))
  | update {rawType rawId : List Char} {t : String} {n : Int} (hm : r.method = "PATCH")
      (ht : SegmentText rawType t) (hn : SegmentId rawId n) (hb : r.body.length ≤ limit) :
      Asks limit r (.entity rawType rawId) (.update t n r.body)
  | delete {rawType rawId : List Char} {t : String} {n : Int} (hm : r.method = "DELETE")
      (ht : SegmentText rawType t) (hn : SegmentId rawId n) :
      Asks limit r (.entity rawType rawId) (.delete t n)
  | revive {rawType rawId : List Char} {t : String} {n : Int} (hm : r.method = "POST")
      (ht : SegmentText rawType t) (hn : SegmentId rawId n) :
      Asks limit r (.revival rawType rawId) (.revive t n)

namespace Serve

theorem segment_ok {name : String} {raw : List Char} {s : String} :
    segment name raw = .ok s ↔ SegmentText raw s := by
  unfold segment SegmentText
  cases Utf8.string? (Percent.decode (Utf8.encode raw)) <;> simp

theorem segment_error {name : String} {raw : List Char} {response : Http.Response}
    (h : segment name raw = .error response) : response.status = 400 := by
  unfold segment at h
  split at h
  · cases h
  · cases h
    rfl

theorem entitySegments_ok {rawType rawId : List Char} {t : String} {n : Int}
    (ht : SegmentText rawType t) (hn : SegmentId rawId n) :
    entitySegments rawType rawId = .ok (t, n) := by
  obtain ⟨s, hs, hw⟩ := hn
  have hw := Parameters.word_iff.mpr hw
  simp [entitySegments, typeSegment, segment_ok.mpr ht, segment_ok.mpr hs, hw]

theorem entitySegments_cases (rawType rawId : List Char) :
    (∃ t n, SegmentText rawType t ∧ SegmentId rawId n) ∨
    (∃ response, entitySegments rawType rawId = .error response ∧ response.status = 400) := by
  cases ht : segment "entity_type" rawType with
  | error response =>
    have he : entitySegments rawType rawId = .error response := by
      simp [entitySegments, typeSegment, ht]
    exact Or.inr ⟨response, he, segment_error ht⟩
  | ok t =>
    cases hs : segment "id" rawId with
    | error response =>
      have he : entitySegments rawType rawId = .error response := by
        simp [entitySegments, typeSegment, ht, hs]
      exact Or.inr ⟨response, he, segment_error hs⟩
    | ok s =>
      cases hn : Parameters.word? s with
      | none =>
        have he : entitySegments rawType rawId = .error (badUrl
            ("Cannot parse value at index 1 with value `" ++ s ++ "` to a `i64`")) := by
          simp [entitySegments, typeSegment, ht, hs, hn]
        exact Or.inr ⟨_, he, rfl⟩
      | some n =>
        exact Or.inl ⟨t, n, segment_ok.mp ht, s, segment_ok.mp hs, Parameters.word_iff.mp hn⟩

theorem readBody_ok {limit : Nat} {r : Http.Request} (h : r.body.length ≤ limit) :
    readBody limit r = .ok r.body := if_pos h

theorem readBody_error {limit : Nat} {r : Http.Request} (h : ¬ r.body.length ≤ limit) :
    ∃ response, readBody limit r = .error response ∧ response.status = 413 :=
  ⟨_, if_neg h, rfl⟩

theorem isRead_iff {r : Http.Request} :
    isRead r = true ↔ r.method = "GET" ∨ r.method = "HEAD" := by
  simp [isRead, Http.Request.isHead]

variable {g : Gateway} {limit : Nat} {r : Http.Request} {client : Client} {route : Route}

theorem allows_asked {task : Task} (h : Asks limit r route task) :
    route.allows r.method = true := by
  unfold Route.allows
  cases h with
  | list hm | summarize hm | get hm => rcases hm with hm | hm <;> rw [hm] <;> rfl
  | create hm | update hm | delete hm | revive hm => rw [hm]; rfl

theorem isRead_eq_false (h : r.method = "POST" ∨ r.method = "PATCH" ∨ r.method = "DELETE") :
    isRead r = false := by
  rcases h with h | h | h <;> simp [isRead, Http.Request.isHead, h]

theorem operation_asked {task : Task} (h : Asks limit r route task) :
    operation g limit r client route = .ok (task.plan client g.formats) := by
  have ha := allows_asked h
  cases h with
  | list hm ht =>
    simp [operation, ha, typeSegment, segment_ok.mpr ht, isRead_iff.mpr hm, Task.plan, parameters]
  | create hm ht hb =>
    have hr := isRead_eq_false (Or.inl hm)
    simp [operation, ha, typeSegment, segment_ok.mpr ht, hr, readBody_ok hb, Task.plan]
  | summarize hm ht =>
    simp [operation, ha, typeSegment, segment_ok.mpr ht, Task.plan, parameters]
  | get hm ht hn =>
    simp [operation, ha, entitySegments_ok ht hn, isRead_iff.mpr hm, Task.plan, parameters]
  | update hm ht hn hb =>
    have hr := isRead_eq_false (Or.inr (Or.inl hm))
    rw [hm] at ha
    simp [operation, ha, entitySegments_ok ht hn, hr, hm, readBody_ok hb, Task.plan]
  | delete hm ht hn =>
    have hr := isRead_eq_false (Or.inr (Or.inr hm))
    rw [hm] at ha
    simp [operation, ha, entitySegments_ok ht hn, hr, hm, Task.plan]
  | revive hm ht hn =>
    simp [operation, ha, entitySegments_ok ht hn, Task.plan]

theorem operation_unasked (he : route.isForEntities = true) (ha : route.allows r.method = true)
    (h : ¬ ∃ task, Asks limit r route task) :
    ∃ response, operation g limit r client route = .error response ∧
      (response.status = 400 ∨ response.status = 413 ∧ limit < r.body.length) := by
  have hm : r.method ∈ route.methods := List.contains_iff_mem.mp ha
  cases route with
  | versions => cases he
  | icon => cases he
  | collection raw =>
    cases ht : typeSegment raw with
    | error response =>
      refine ⟨response, ?_, Or.inl (segment_error ht)⟩
      simp [operation, ha, ht]
    | ok t =>
      have ht' : SegmentText raw t := segment_ok.mp ht
      simp only [Route.methods, List.mem_cons, List.not_mem_nil, or_false] at hm
      rcases hm with hm | hm | hm
      · exact absurd ⟨_, .list (Or.inl hm) ht'⟩ h
      · exact absurd ⟨_, .list (Or.inr hm) ht'⟩ h
      · have hb : ¬ r.body.length ≤ limit := fun hb => h ⟨_, .create hm ht' hb⟩
        obtain ⟨response, hread, hs⟩ := readBody_error hb
        refine ⟨response, ?_, Or.inr ⟨hs, by omega⟩⟩
        simp [operation, ha, ht, isRead_eq_false (Or.inl hm), hread]
  | summary raw =>
    cases ht : typeSegment raw with
    | error response =>
      refine ⟨response, ?_, Or.inl (segment_error ht)⟩
      simp [operation, ha, ht]
    | ok t =>
      have hm : r.method = "GET" ∨ r.method = "HEAD" := by simpa [Route.methods] using hm
      exact absurd ⟨_, .summarize hm (segment_ok.mp ht)⟩ h
  | entity rawType rawId =>
    rcases entitySegments_cases rawType rawId with ⟨t, n, ht, hn⟩ | ⟨response, hs, h400⟩
    · simp only [Route.methods, List.mem_cons, List.not_mem_nil, or_false] at hm
      rcases hm with hm | hm | hm | hm
      · exact absurd ⟨_, .get (Or.inl hm) ht hn⟩ h
      · exact absurd ⟨_, .get (Or.inr hm) ht hn⟩ h
      · have hb : ¬ r.body.length ≤ limit := fun hb => h ⟨_, .update hm ht hn hb⟩
        obtain ⟨response, hread, hs⟩ := readBody_error hb
        refine ⟨response, ?_, Or.inr ⟨hs, by omega⟩⟩
        rw [hm] at ha
        simp [operation, ha, entitySegments_ok ht hn, isRead_eq_false (Or.inr (Or.inl hm)), hm,
          hread]
      · exact absurd ⟨_, .delete hm ht hn⟩ h
    · refine ⟨response, ?_, Or.inl h400⟩
      simp [operation, ha, hs]
  | revival rawType rawId =>
    rcases entitySegments_cases rawType rawId with ⟨t, n, ht, hn⟩ | ⟨response, hs, h400⟩
    · have hm : r.method = "POST" := by simpa [Route.methods] using hm
      exact absurd ⟨_, .revive hm ht hn⟩ h
    · refine ⟨response, ?_, Or.inl h400⟩
      simp [operation, ha, hs]

theorem operation_disallowed (ha : route.allows r.method = false) :
    operation g limit r client route = .ok notAllowed := by
  simp [operation, ha]

variable {choice : Nat}

theorem entityPlan_refused {e : GatewayError}
    (h : Authorization.parse (r.headers.values "authorization") = .error e) :
    entityPlan g choice limit r route = (.answer e.response, g) := by
  simp [entityPlan, authenticate, h]

theorem entityPlan_unconnected {c : Credentials} {e : CallError}
    (hc : Authorization.parse (r.headers.values "authorization") = .ok c)
    (h : g.clients.getOrConnect choice c = .error e) :
    entityPlan g choice limit r route = (.answer (GatewayError.call e).response, g) := by
  simp [entityPlan, authenticate, hc, h]

theorem entityPlan_connected {c : Credentials} {clients : Cache}
    (hc : Authorization.parse (r.headers.values "authorization") = .ok c)
    (h : g.clients.getOrConnect choice c = .ok (client, clients)) :
    entityPlan g choice limit r route =
      match operation { g with clients } limit r client route with
      | .ok plan => (plan, { g with clients })
      | .error response => (.answer response, { g with clients }) := by
  have hauth : authenticate g choice r = .ok (client, { g with clients }) := by
    simp [authenticate, hc, h]
  cases ho : operation { g with clients } limit r client route with
  | ok plan => simp [entityPlan, hauth, ho]
  | error response => simp [entityPlan, hauth, ho]

theorem entityPlan_asked {c : Credentials} {clients : Cache} {task : Task}
    (hc : Authorization.parse (r.headers.values "authorization") = .ok c)
    (h : g.clients.getOrConnect choice c = .ok (client, clients)) (ht : Asks limit r route task) :
    entityPlan g choice limit r route = (task.plan client g.formats, { g with clients }) := by
  rw [entityPlan_connected hc h, operation_asked ht]

theorem entityPlan_unasked {c : Credentials} {clients : Cache}
    (hc : Authorization.parse (r.headers.values "authorization") = .ok c)
    (h : g.clients.getOrConnect choice c = .ok (client, clients))
    (he : route.isForEntities = true) (ha : route.allows r.method = true)
    (ht : ¬ ∃ task, Asks limit r route task) :
    ∃ response, entityPlan g choice limit r route = (.answer response, { g with clients }) ∧
      (response.status = 400 ∨ response.status = 413 ∧ limit < r.body.length) := by
  obtain ⟨response, ho, hs⟩ : ∃ response,
      operation { g with clients } limit r client route = .error response ∧
        (response.status = 400 ∨ response.status = 413 ∧ limit < r.body.length) :=
    operation_unasked he ha ht
  refine ⟨response, ?_, hs⟩
  rw [entityPlan_connected hc h, ho]

/-- A request on an entity route is refused, or a caller with a client of his own asks for a
task. -/
theorem entityPlan_cases (g : Gateway) (choice limit : Nat) (r : Http.Request)
    (he : route.isForEntities = true) :
    (∃ response, (entityPlan g choice limit r route).1 = .answer response ∧
      400 ≤ response.status) ∨
    (∃ c client clients task,
      Authorization.parse (r.headers.values "authorization") = .ok c ∧
      g.clients.getOrConnect choice c = .ok (client, clients) ∧ Asks limit r route task ∧
      (entityPlan g choice limit r route).1 = task.plan client g.formats) := by
  cases hc : Authorization.parse (r.headers.values "authorization") with
  | error e =>
    refine Or.inl ⟨e.response, by rw [entityPlan_refused hc], ?_⟩
    exact e.response_status ▸ e.status_ge
  | ok c =>
    cases h : g.clients.getOrConnect choice c with
    | error e =>
      refine Or.inl ⟨_, by rw [entityPlan_unconnected hc h], ?_⟩
      exact (GatewayError.response_status _) ▸ (GatewayError.call e).status_ge
    | ok p =>
      obtain ⟨client, clients⟩ := p
      cases ha : route.allows r.method with
      | false =>
        refine Or.inl ⟨.empty 405, ?_, by decide⟩
        rw [entityPlan_connected hc h, operation_disallowed ha]
        rfl
      | true =>
        by_cases ht : ∃ task, Asks limit r route task
        · obtain ⟨task, ht⟩ := ht
          exact Or.inr ⟨c, client, clients, task, rfl, h, ht, by rw [entityPlan_asked hc h ht]⟩
        · obtain ⟨response, hp, hs⟩ := entityPlan_unasked hc h he ha ht
          refine Or.inl ⟨response, by rw [hp], ?_⟩
          rcases hs with hs | ⟨hs, -⟩
          · exact hs ▸ Nat.le_refl 400
          · rw [hs]
            decide

end Serve

end RestGateway

import RestGateway.Proofs.Gateway.Requests

/-!
# Headers of the answers

Whatever comes of a request, the answer says at most what its body is, how a caller authenticates
and which methods a path answers. No answer has an id before the pipeline gives it one.
-/

set_option autoImplicit false

namespace RestGateway

def Http.Response.ownHeaders : List String := ["content-type", "www-authenticate", "allow"]

def Http.Response.IsOwn (response : Http.Response) : Prop :=
  ∀ h ∈ response.headers, h.1 ∈ ownHeaders

namespace Http.Response

theorem isOwn_empty (status : Http.Status) : (empty status).IsOwn := List.forall_mem_nil _

theorem IsOwn.addHeader {response : Http.Response} {name value : String} (h : response.IsOwn)
    (hn : name ∈ ownHeaders) : (response.addHeader name value).IsOwn := by
  intro header hm
  rcases List.mem_append.mp hm with hm | hm
  · exact h header hm
  · obtain rfl := List.mem_singleton.mp hm
    exact hn

theorem isOwn_plain (status : Http.Status) (body : String) : (plain status body).IsOwn :=
  IsOwn.addHeader (List.forall_mem_nil _) (by decide)

theorem isOwn_json (status : Http.Status) (body : Json) : (json status body).IsOwn :=
  IsOwn.addHeader (List.forall_mem_nil _) (by decide)

end Http.Response

open Http.Response

namespace GatewayError

theorem isOwn_response (e : GatewayError) : e.response.IsOwn := by
  cases e with
  | unauthorized => exact (isOwn_json _ _).addHeader (by decide)
  | _ => exact isOwn_json _ _

theorem isOwn_bind {α : Type} {x : Except GatewayError α}
    {f : α → Except GatewayError Http.Response} (h : ∀ a, (orResponse (f a)).IsOwn) :
    (orResponse (x >>= f)).IsOwn := by
  cases x with
  | error e => exact e.isOwn_response
  | ok a => exact h a

end GatewayError

open GatewayError (isOwn_response isOwn_bind)

/-- Whatever comes of the call, the answer has headers of its own only. -/
def Plan.IsOwn (p : Plan) : Prop := ∀ b, (p.run b).IsOwn

theorem Plan.isOwn_answer {response : Http.Response} (h : response.IsOwn) :
    (answer response).IsOwn :=
  fun _ => h

namespace Entities

theorem isOwn_ask {c : Call} {finish : Outcome → Except GatewayError Http.Response}
    (h : ∀ o, (GatewayError.orResponse (finish o)).IsOwn) : (ask c finish).IsOwn :=
  fun b => h (b c)

theorem isOwn_orRefuse {α : Type} {x : Except GatewayError α} {f : α → Plan}
    (h : ∀ a, (f a).IsOwn) : (orRefuse (x >>= fun a => .ok (f a))).IsOwn := by
  cases x with
  | error e => exact Plan.isOwn_answer e.isOwn_response
  | ok a => exact h a

theorem isOwn_listResponse (found : List Members) : (listResponse found).IsOwn := by
  unfold listResponse
  split
  · exact isOwn_empty _
  · exact isOwn_json _ _

theorem isOwn_change (client : Client) (method : String) (rules : Classifier) (entityType : String)
    (id : Int) : (change client method rules entityType id).IsOwn := by
  refine isOwn_ask fun o => isOwn_bind fun results => ?_
  split
  · exact isOwn_empty _
  · exact isOwn_response _

end Entities

open Entities in
theorem Task.isOwn_plan (client : Client) (formats : Registry) (task : Task) :
    (task.plan client formats).IsOwn := by
  cases task with
  | list =>
    exact isOwn_orRefuse fun _ => isOwn_ask fun _ => isOwn_bind fun _ => isOwn_listResponse _
  | get =>
    refine isOwn_ask fun o => isOwn_bind fun found => ?_
    cases found.head? with
    | some entity => exact isOwn_json _ _
    | none => exact isOwn_response _
  | summarize =>
    exact isOwn_orRefuse fun _ => isOwn_ask fun _ => isOwn_bind fun _ => isOwn_json _ _
  | create | update =>
    exact isOwn_orRefuse fun _ => isOwn_ask fun _ => isOwn_bind fun _ => isOwn_json _ _
  | delete | revive => exact isOwn_change _ _ _ _ _

theorem Versions.isOwn_plan (g : Gateway) (r : Http.Request) : (plan g r).IsOwn := by
  unfold plan
  cases g.clients.connect (credentials r) with
  | error e => exact Plan.isOwn_answer (isOwn_response _)
  | ok client => exact fun b => isOwn_bind fun _ => isOwn_json _ _

namespace Serve

variable {g : Gateway} {limit : Nat} {r : Http.Request} {client : Client} {route : Route}

theorem isOwn_notAllowed : notAllowed.IsOwn := Plan.isOwn_answer (isOwn_empty _)

theorem segment_isOwn {name : String} {raw : List Char} {response : Http.Response}
    (h : segment name raw = .error response) : response.IsOwn := by
  unfold segment at h
  split at h
  · cases h
  · cases h
    exact isOwn_plain _ _

theorem entitySegments_isOwn {rawType rawId : List Char} {response : Http.Response}
    (h : entitySegments rawType rawId = .error response) : response.IsOwn := by
  unfold entitySegments at h
  rcases bind_eq_error.mp h with h | ⟨t, -, h⟩
  · exact segment_isOwn h
  rcases bind_eq_error.mp h with h | ⟨s, -, h⟩
  · exact segment_isOwn h
  split at h
  · cases h
  · cases h
    exact isOwn_plain _ _

theorem readBody_isOwn {response : Http.Response} (h : readBody limit r = .error response) :
    response.IsOwn := by
  unfold readBody at h
  split at h
  · cases h
  · cases h
    exact isOwn_plain _ _

theorem operation_isOwn {response : Http.Response}
    (h : operation g limit r client route = .error response) : response.IsOwn := by
  unfold operation at h
  split at h
  · cases h
  cases route with
  | versions | icon => cases h
  | collection raw =>
    rcases bind_eq_error.mp h with h | ⟨t, -, h⟩
    · exact segment_isOwn h
    split at h
    · cases h
    rcases bind_eq_error.mp h with h | ⟨body, -, h⟩
    · exact readBody_isOwn h
    · cases h
  | summary raw =>
    rcases bind_eq_error.mp h with h | ⟨t, -, h⟩
    · exact segment_isOwn h
    · cases h
  | entity rawType rawId =>
    rcases bind_eq_error.mp h with h | ⟨⟨t, n⟩, -, h⟩
    · exact entitySegments_isOwn h
    simp only at h
    split at h
    · cases h
    split at h
    · rcases bind_eq_error.mp h with h | ⟨body, -, h⟩
      · exact readBody_isOwn h
      · cases h
    · cases h
  | revival rawType rawId =>
    rcases bind_eq_error.mp h with h | ⟨⟨t, n⟩, -, h⟩
    · exact entitySegments_isOwn h
    · cases h

theorem isOwn_operation {plan : Plan} (he : route.isForEntities = true)
    (h : operation g limit r client route = .ok plan) : plan.IsOwn := by
  cases ha : route.allows r.method with
  | false =>
    rw [operation_disallowed ha] at h
    cases h
    exact isOwn_notAllowed
  | true =>
    by_cases ht : ∃ task, Asks limit r route task
    · obtain ⟨task, ht⟩ := ht
      rw [operation_asked ht] at h
      cases h
      exact task.isOwn_plan _ _
    · obtain ⟨response, ho, -⟩ : ∃ response, operation g limit r client route = .error response ∧
          (response.status = 400 ∨ response.status = 413 ∧ limit < r.body.length) :=
        operation_unasked he ha ht
      rw [ho] at h
      cases h

theorem isOwn_entityPlan (choice : Nat) (he : route.isForEntities = true) :
    (entityPlan g choice limit r route).1.IsOwn := by
  unfold entityPlan
  split
  · exact Plan.isOwn_answer (isOwn_response _)
  · split
    · next ho => exact isOwn_operation he ho
    · next ho => exact Plan.isOwn_answer (operation_isOwn ho)

theorem isOwn_plan (g : Gateway) (choice limit : Nat) (r : Http.Request) :
    (plan g choice limit r).1.IsOwn := by
  cases hr : Route.ofPath? r.target.path with
  | none =>
    simp only [plan, hr]
    exact Plan.isOwn_answer (isOwn_empty _)
  | some route =>
    cases route with
    | versions =>
      simp only [plan, hr]
      split
      · exact Versions.isOwn_plan _ _
      · exact isOwn_notAllowed
    | icon =>
      simp only [plan, hr]
      split
      · exact Plan.isOwn_answer (isOwn_empty _)
      · exact isOwn_notAllowed
    | collection | summary | entity | revival =>
      rw [plan_entities g choice limit hr rfl]
      exact isOwn_entityPlan _ rfl

end Serve

end RestGateway

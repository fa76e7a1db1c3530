import RestGateway.Proofs.Gateway.Tasks
import RestGateway.Proofs.Text.Split

/-!
# Whole requests

The path decides who answers a request: the versions at the root, nobody, or the entities behind the
check of credentials. What is done to a response afterwards leaves the calls alone, and leaves the
response alone where the route answers the method and the method asks for a body.
-/

set_option autoImplicit false

namespace RestGateway

theorem Text.splitWhere_blank {p : Char → Bool} {cs : List Char}
    (h : Text.splitWhere p cs = [[]]) : cs = [] := by
  cases cs with
  | nil => rfl
  | cons c cs =>
    simp only [Text.splitWhere] at h
    split at h
    · exact absurd (List.cons.inj h).2 (splitWhere_ne_nil p cs)
    · split at h <;> simp at h

namespace Route

theorem ofSegments_versions {parts : List (List Char)} (h : ofSegments? parts = some .versions) :
    parts = [[]] := by
  unfold ofSegments? at h
  split at h
  · next a =>
    split_ifs at h with ha
    · rw [List.isEmpty_iff.mp ha]
    · cases h
    · cases h
  · split_ifs at h <;> cases h
  · split_ifs at h
    cases h
  · cases h

theorem ofPath_versions {path : List Char} (h : ofPath? path = some .versions) : path = ['/'] := by
  unfold ofPath? at h
  split at h
  · rw [Text.splitWhere_blank (ofSegments_versions h)]
  · cases h

end Route

namespace Plan

@[simp] theorem calls_answer (response : Http.Response) : (answer response).calls = [] := rfl

@[simp] theorem calls_ask (c : Call) (f : Outcome → Http.Response) : (ask c f).calls = [c] := rfl

theorem calls_length_le (p : Plan) : p.calls.length ≤ 1 := by
  cases p <;> simp

end Plan

namespace Serve

variable {r : Http.Request} {route : Route}

theorem plan_entities (g : Gateway) (choice limit : Nat)
    (hr : Route.ofPath? r.target.path = some route) (he : route.isForEntities = true) :
    plan g choice limit r = entityPlan g choice limit r route := by
  cases route with
  | versions | icon => cases he
  | collection | summary | entity | revival => simp [plan, hr]

@[simp] theorem finish_calls (r : Http.Request) (p : Plan) : (finish r p).calls = p.calls := by
  simp [finish]

theorem finish_run (b : Backend) (p : Plan) (hr : Route.ofPath? r.target.path = some route)
    (ha : route.allows r.method = true) : (finish r p).run b = dropBody r (p.run b) := by
  simp [finish, addAllowed, hr, ha]

theorem finish_of_ne (p : Plan) (hr : Route.ofPath? r.target.path = some route)
    (ha : route.allows r.method = true) (hm : r.method ≠ "HEAD") : finish r p = p := by
  cases p <;> simp [finish, Plan.map, addAllowed, hr, ha, dropBody, Http.Request.isHead, hm]

theorem dropBody_status (r : Http.Request) (response : Http.Response) :
    (dropBody r response).status = response.status := by
  unfold dropBody
  split <;> rfl

theorem finish_status (b : Backend) (r : Http.Request) (p : Plan) :
    ((finish r p).run b).status = (p.run b).status := by
  rw [finish, Plan.run_map, dropBody_status, addAllowed]
  split
  · split <;> rfl
  · rfl

end Serve

namespace Gateway

variable {g : Gateway} {choice : Nat} {r : Http.Request} {route : Route}

theorem serve_entities (hr : Route.ofPath? r.target.path = some route)
    (he : route.isForEntities = true) :
    g.serve choice r = (Serve.finish r (Serve.entityPlan g choice readLimit r route).1,
      (Serve.entityPlan g choice readLimit r route).2) := by
  rw [serve, Serve.plan_entities g choice readLimit hr he]

theorem serve_elsewhere (hp : r.target.path ≠ ['/'])
    (h : ∀ route, Route.ofPath? r.target.path = some route → route.isForEntities = false) :
    (g.serve choice r).1.calls = [] ∧ (g.serve choice r).2 = g := by
  cases hr : Route.ofPath? r.target.path with
  | none => simp [serve, Serve.plan, hr]
  | some route =>
    cases route with
    | versions => exact absurd (Route.ofPath_versions hr) hp
    | icon =>
      cases hm : Serve.isRead r <;>
        simp [serve, Serve.plan, hr, hm, Serve.notAllowed]
    | collection | summary | entity | revival => cases h _ hr

def smallConfig : Config :=
  { Config.builtin with backend := ⟨"http://a", defaultApiPath, 30, 1⟩ }

def small : Gateway :=
  ⟨smallConfig, { Registry.builtin with active := Registry.builtinNames },
    .make "http://a" defaultApiPath 1⟩

end Gateway

def Http.Request.signed (method path query body : String) : Http.Request :=
  ⟨method, ⟨path.toList, query.toList⟩, [("authorization", Utf8.bytes "Basic YTpr")],
    Utf8.bytes body⟩

end RestGateway

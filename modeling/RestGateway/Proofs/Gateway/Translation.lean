import RestGateway.Proofs.Backend.SharedCache
import RestGateway.Proofs.Gateway.Requests

/-!
# From requests to calls

A task tells the backend one method and one payload, if the parameters and the body that go into
them are understood. So a request becomes exactly one call with the payload of its own type, id,
parameters and body, or it is refused and the backend never hears of it.
-/

set_option autoImplicit false

namespace RestGateway

inductive Tells (formats : Registry) : Task → String → Json → Prop where
  | list {t : String} {ps : Parameters} {q : ReadQuery}
      (h : ps.applyRead formats (.ofType t) = .ok q) :
      Tells formats (.list t ps) "read" q.toJson
  | get {t : String} {n : Int} {ps : Parameters} :
      Tells formats (.get t n ps) "read" (ps.applyFields (.byId t n)).toJson
  | summarize {t : String} {ps : Parameters} {q : SummarizeQuery}
      (h : ps.applySummarize formats (.ofType t) = .ok q) :
      Tells formats (.summarize t ps) "summarize" q.toJson
  | create {t : String} {body : List UInt8} {members : Members}
      (h : Json.Decoder.members.decode body = .ok members) :
      Tells formats (.create t body) "create" (CreateQuery.make t members).toJson
  | update {t : String} {n : Int} {body : List UInt8} {members : Members}
      (h : Json.Decoder.members.decode body = .ok members) :
      Tells formats (.update t n body) "update" (UpdateQuery.make t n members).toJson
  | delete {t : String} {n : Int} :
      Tells formats (.delete t n) "delete" (EntityRef.toJson ⟨t, n⟩)
  | revive {t : String} {n : Int} :
      Tells formats (.revive t n) "revive" (EntityRef.toJson ⟨t, n⟩)

namespace Parameters

variable {ps : Parameters} {formats : Registry} {name : String} {e : GatewayError}

theorem wordOr_error {current : Int} (h : ps.wordOr name current = .error e) : e.status = 400 := by
  unfold wordOr parseWord at h
  split at h
  · split_ifs at h
    split at h
    · cases h
    · cases h
      rfl
  · cases h

theorem filterOr_error {current : Filter} (h : ps.filterOr formats current = .error e) :
    e.status = 400 := by
  unfold filterOr at h
  split at h
  · next value hq =>
    cases hv : formats.parse value with
    | ok f => simp [hv] at h
    | error q =>
      simp only [hv, mapError_error, Except.error.injEq] at h
      exact h ▸ rfl
  · cases h

theorem listOr_error {α : Type} {item : Json.Decoder α} {current : List α}
    (h : ps.listOr name item current = .error e) : e.status = 400 := by
  unfold listOr at h
  split at h
  · next value hq =>
    cases hv : (Json.Decoder.list item).decode (Utf8.bytes value) with
    | ok as => simp [hv] at h
    | error m =>
      simp only [hv, mapError_error, Except.error.injEq] at h
      exact h ▸ rfl
  · cases h

theorem applyRead_error {q : ReadQuery} (h : ps.applyRead formats q = .error e) :
    e.status = 400 := by
  rcases bind_eq_error.mp h with h | ⟨page, -, h⟩
  · exact wordOr_error h
  rcases bind_eq_error.mp h with h | ⟨limit, -, h⟩
  · exact wordOr_error h
  rcases bind_eq_error.mp h with h | ⟨filter, -, h⟩
  · exact filterOr_error h
  cases h

theorem applySummarize_error {q : SummarizeQuery} (h : ps.applySummarize formats q = .error e) :
    e.status = 400 := by
  rcases bind_eq_error.mp h with h | ⟨filter, -, h⟩
  · exact filterOr_error h
  rcases bind_eq_error.mp h with h | ⟨summaries, -, h⟩
  · exact listOr_error h
  rcases bind_eq_error.mp h with h | ⟨grouping, -, h⟩
  · exact listOr_error h
  cases h

end Parameters

namespace Task

variable {client : Client} {formats : Registry} {task : Task} {method : String} {payload : Json}

theorem plan_tells (client : Client) (h : Tells formats task method payload) :
    ∃ finish, task.plan client formats = .ask (client.call method payload) finish := by
  cases h with
  | list h => exact ⟨_, by rw [plan, Entities.list, h]; rfl⟩
  | get => exact ⟨_, rfl⟩
  | summarize h => exact ⟨_, by rw [plan, Entities.summarize, h]; rfl⟩
  | create h => exact ⟨_, by rw [plan, Entities.create, Entities.decodeBody, h]; rfl⟩
  | update h => exact ⟨_, by rw [plan, Entities.update, Entities.decodeBody, h]; rfl⟩
  | delete => exact ⟨_, rfl⟩
  | revive => exact ⟨_, rfl⟩

theorem plan_untold (client : Client) (h : ¬ ∃ method payload, Tells formats task method payload) :
    ∃ response, task.plan client formats = .answer response ∧ response.status = 400 := by
  cases task with
  | list t ps =>
    cases hq : ps.applyRead formats (.ofType t) with
    | ok q => exact absurd ⟨_, _, .list hq⟩ h
    | error e =>
      refine ⟨e.response, ?_, by rw [e.response_status, Parameters.applyRead_error hq]⟩
      simp [plan, Entities.list, Entities.orRefuse, hq]
  | get t n ps => exact absurd ⟨_, _, .get⟩ h
  | summarize t ps =>
    cases hq : ps.applySummarize formats (.ofType t) with
    | ok q => exact absurd ⟨_, _, .summarize hq⟩ h
    | error e =>
      refine ⟨e.response, ?_, by rw [e.response_status, Parameters.applySummarize_error hq]⟩
      simp [plan, Entities.summarize, Entities.orRefuse, hq]
  | create t body =>
    cases hm : Json.Decoder.members.decode body with
    | ok members => exact absurd ⟨_, _, .create hm⟩ h
    | error m =>
      refine ⟨(GatewayError.badRequest m).response, ?_, rfl⟩
      simp [plan, Entities.create, Entities.decodeBody, Entities.orRefuse, hm]
  | update t n body =>
    cases hm : Json.Decoder.members.decode body with
    | ok members => exact absurd ⟨_, _, .update hm⟩ h
    | error m =>
      refine ⟨(GatewayError.badRequest m).response, ?_, rfl⟩
      simp [plan, Entities.update, Entities.decodeBody, Entities.orRefuse, hm]
  | delete t n => exact absurd ⟨_, _, .delete⟩ h
  | revive t n => exact absurd ⟨_, _, .revive⟩ h

end Task

theorem Cache.getOrConnect_ok {cache : Cache}
    (hu : (serverUrl cache.host cache.apiPath).isOk = true) (choice : Nat) (c : Credentials) :
    ∃ client clients, cache.getOrConnect choice c = .ok (client, clients) := by
  rcases getOrConnect_cases cache choice c with ⟨_, -, h⟩ | ⟨_, -, -, h⟩ | ⟨e, -, he, -⟩
  · exact ⟨_, _, h⟩
  · exact ⟨_, _, h⟩
  · rcases connect_cases cache c with ⟨url, -, hc⟩ | ⟨hbad, -⟩
    · rw [hc] at he
      cases he
    · rw [hbad] at hu
      cases hu

namespace Gateway

/-- A request whose task is understood becomes exactly one call, of the task's method and payload;
any other one becomes none and is answered 400. -/
theorem serve_translated {g : Gateway} {r : Http.Request} {route : Route} {c : Credentials}
    (choice : Nat) (hr : Route.ofPath? r.target.path = some route)
    (he : route.isForEntities = true) (ha : route.allows r.method = true)
    (hc : Authorization.parse (r.headers.values "authorization") = .ok c)
    (hu : (serverUrl g.clients.host g.clients.apiPath).isOk = true)
    (hb : r.body.length ≤ readLimit) :
    (∀ task method payload, Asks readLimit r route task → Tells g.formats task method payload →
      ∃ call, (g.serve choice r).1.calls = [call] ∧
        call.body = .object [("method_name", .string method),
          ("params", .list [call.credentials.toJson, payload])]) ∧
    ((¬ ∃ task method payload, Asks readLimit r route task ∧
        Tells g.formats task method payload) →
      (g.serve choice r).1.calls = [] ∧ ∀ b, ((g.serve choice r).1.run b).status = 400) := by
  obtain ⟨client, clients, hg⟩ := Cache.getOrConnect_ok hu choice c
  rw [serve_entities hr he]
  constructor
  · intro task method payload hasks htells
    obtain ⟨finish, hp⟩ := Task.plan_tells client htells
    refine ⟨client.call method payload, ?_, rfl⟩
    simp [Serve.entityPlan_asked hc hg hasks, hp]
  · intro hnone
    obtain ⟨response, hp, hs⟩ : ∃ response,
        (Serve.entityPlan g choice readLimit r route).1 = .answer response ∧
          response.status = 400 := by
      by_cases hasks : ∃ task, Asks readLimit r route task
      · obtain ⟨task, hasks⟩ := hasks
        rw [Serve.entityPlan_asked hc hg hasks]
        apply Task.plan_untold client
        rintro ⟨method, payload, htells⟩
        exact hnone ⟨task, method, payload, hasks, htells⟩
      · obtain ⟨response, hp, hs⟩ := Serve.entityPlan_unasked hc hg he ha hasks
        refine ⟨response, by rw [hp], ?_⟩
        rcases hs with hs | ⟨-, hlong⟩
        · exact hs
        · exact absurd hb (by omega)
    constructor
    · rw [Serve.finish_calls, hp, Plan.calls_answer]
    · intro b
      rw [Serve.finish_status, hp]
      exact hs

theorem serve_translated_get :
    (∃ call, (small.serve 0 (.signed "GET" "/Shot/7" "fields=code" "")).1.calls = [call] ∧
      call.body = .object [("method_name", .string "read"),
        ("params", .list [call.credentials.toJson,
          ((ReadQuery.byId "Shot" 7).withFields ["code"]).toJson])]) ∧
    (small.serve 0 (.signed "GET" "/Shot/7x" "" "")).1.calls = [] := by
  have htype : SegmentText "Shot".toList "Shot" := rfl
  have hid : SegmentId "7".toList 7 := ⟨"7", rfl, Parameters.word_iff.mp rfl⟩
  constructor
  · exact (serve_translated 0 rfl rfl rfl rfl rfl (by decide)).1 _ _ _
      (.get (Or.inl rfl) htype hid) .get
  · apply ((serve_translated 0 rfl rfl rfl rfl rfl (by decide)).2 _).1
    rintro ⟨task, method, payload, hasks, -⟩
    cases hasks with
    | get hm ht hn =>
      obtain ⟨s, hs, hw⟩ := hn
      cases hs
      cases Parameters.word_iff.mpr hw
    | update hm | delete hm => exact absurd hm (by decide)

end Gateway

end RestGateway

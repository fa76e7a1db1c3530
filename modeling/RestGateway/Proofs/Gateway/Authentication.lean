import RestGateway.Proofs.Backend.Authorization
import RestGateway.Proofs.Gateway.Reached
import RestGateway.Proofs.Gateway.Translation

/-!
# Authentication

Nothing but the versions is had without credentials. A caller with none is told so by the same
response whatever else the request says, and a call to the backend is made with the credentials of
the very caller whose request it serves.
-/

set_option autoImplicit false

namespace RestGateway

theorem Authorization.parse_error {values : List (List UInt8)} {e : GatewayError}
    (h : parse values = .error e) : e.status = 401 ∨ e.status = 400 ∨ e.status = 403 := by
  rcases presents_or_unknown values with ⟨scheme, payload, hp⟩ | hu
  · rcases payload_cases hp with ⟨-, m, hm⟩ | ⟨bs, -, -, m, hm⟩ | ⟨name, secret, -, hc⟩
    · cases hm.symm.trans h
      exact Or.inr (Or.inl rfl)
    · cases hm.symm.trans h
      exact Or.inr (Or.inr rfl)
    · cases hc.symm.trans h
  · obtain ⟨m, hm⟩ := parse_unknown hu
    cases hm.symm.trans h
    exact Or.inl rfl

theorem Task.plan_calls {client : Client} {formats : Registry} {task : Task} {call : Call}
    (h : call ∈ (task.plan client formats).calls) :
    ∃ method payload, call = client.call method payload := by
  by_cases ht : ∃ method payload, Tells formats task method payload
  · obtain ⟨method, payload, ht⟩ := ht
    obtain ⟨finish, hp⟩ := plan_tells client ht
    rw [hp, Plan.calls_ask] at h
    exact ⟨method, payload, List.mem_singleton.mp h⟩
  · obtain ⟨response, hp, -⟩ := plan_untold client ht
    rw [hp, Plan.calls_answer] at h
    cases h

namespace Gateway

variable {g : Gateway} {choice : Nat} {r : Http.Request}

/-- Below the root, only a caller's own client calls the backend. -/
theorem serve_call {call : Call} (hp : r.target.path ≠ ['/'])
    (h : call ∈ (g.serve choice r).1.calls) :
    ∃ c client clients method payload, r.caller? = some c ∧
      Authorization.parse (r.headers.values "authorization") = .ok c ∧
      g.clients.getOrConnect choice c = .ok (client, clients) ∧
      call = client.call method payload := by
  by_cases he : ∃ route, Route.ofPath? r.target.path = some route ∧ route.isForEntities = true
  · obtain ⟨route, hr, he⟩ := he
    rw [serve_entities hr he, Serve.finish_calls] at h
    rcases Serve.entityPlan_cases g choice readLimit r he with
      ⟨response, hplan, -⟩ | ⟨c, client, clients, task, hc, hg, -, hplan⟩
    · rw [hplan, Plan.calls_answer] at h
      cases h
    · rw [hplan] at h
      obtain ⟨method, payload, hcall⟩ := Task.plan_calls h
      have hcaller : r.caller? = some c := by
        simp [Http.Request.caller?, hr, he, hc, Except.toOption]
      exact ⟨c, client, clients, method, payload, hcaller, hc, hg, hcall⟩
  · have helse : ∀ route, Route.ofPath? r.target.path = some route →
        route.isForEntities = false := by
      intro route hr
      exact Bool.eq_false_iff.mpr fun hfor => he ⟨route, hr, hfor⟩
    rw [(serve_elsewhere hp helse).1] at h
    cases h

/-- Whatever the gateway went through before, a request without usable credentials causes no call
and is answered by the fault of its credentials alone, and a request with credentials causes one
call at most, made with exactly these. A `HEAD` is answered like a `GET`, without the body. -/
theorem run_authenticated {config : Config} {formats : Registry} {start : Gateway}
    (events : List Event) (choice : Nat) (r : Http.Request)
    (hstart : withFormats config formats = .ok start) (hp : r.target.path ≠ ['/'])
    (hf : ∀ d ∈ (.serve choice r :: events).filterMap Event.caller?, CacheKey.Holds d)
    (hx : Cache.CollisionFree start.clients.host
      ((.serve choice r :: events).filterMap Event.caller?)) :
    let served := ((start.run events).serve choice r).1
    (∀ e, Authorization.parse (r.headers.values "authorization") = .error e →
      served.calls = [] ∧ (e.status = 401 ∨ e.status = 400 ∨ e.status = 403) ∧
      ∀ route, Route.ofPath? r.target.path = some route → route.isForEntities = true →
        route.allows r.method = true → ∀ b,
          served.run b = if r.isHead then { e.response with body := "" } else e.response) ∧
    (∀ c, Authorization.parse (r.headers.values "authorization") = .ok c →
      served.calls.length ≤ 1 ∧ ∀ call ∈ served.calls, ∃ method payload,
        call.body = .object [("method_name", .string method),
          ("params", .list [c.toJson, payload])]) := by
  intro served
  constructor
  · intro e he
    refine ⟨?_, Authorization.parse_error he, ?_⟩
    · apply List.eq_nil_iff_forall_not_mem.mpr
      intro call hcall
      obtain ⟨c, -, -, -, -, -, hc, -⟩ := serve_call hp hcall
      rw [he] at hc
      cases hc
    · intro route hr hfor ha b
      show ((start.run events).serve choice r).1.run b = _
      rw [serve_entities hr hfor, Serve.finish_run b _ hr ha, Serve.entityPlan_refused he]
      rfl
  · intro c hc
    refine ⟨Plan.calls_length_le served, ?_⟩
    intro call hcall
    obtain ⟨d, client, clients, method, payload, hcaller, hd, hg, rfl⟩ := serve_call hp hcall
    obtain rfl : c = d := Except.ok.inj (hc.symm.trans hd)
    have hs : Sound start ((.serve choice r :: events).filterMap Event.caller?)
        (start.run events) := by
      apply run_sound events ?_ (withFormats_sound hstart _)
      intro d hd
      obtain ⟨event, hevent, hd⟩ := List.mem_filterMap.mp hd
      exact List.mem_filterMap.mpr ⟨event, List.mem_cons_of_mem _ hevent, hd⟩
    have hknown : c ∈ (.serve choice r :: events).filterMap Event.caller? :=
      List.mem_filterMap.mpr ⟨_, List.mem_cons_self, hcaller⟩
    refine ⟨method, payload, ?_⟩
    rw [← client_credentials choice hs hknown hf hx hg]
    rfl

end Gateway

theorem Cache.collisionFree_pair {host : String} {c d : Credentials}
    (h : Blake3.hash (CacheKey.material host c) ≠ Blake3.hash (CacheKey.material host d)) :
    CollisionFree host [c, d] := by
  rintro _ ⟨a, ha, rfl⟩ _ ⟨b, hb, rfl⟩ heq
  simp only [List.mem_cons, List.not_mem_nil, or_false] at ha hb
  rcases ha with rfl | rfl <;> rcases hb with rfl | rfl
  · rfl
  · exact absurd heq h
  · exact absurd heq.symm h
  · rfl

namespace Gateway

theorem run_authenticated_twice :
    let person : Http.Request :=
      ⟨"GET", ⟨"/Shot".toList, []⟩, [("authorization", Utf8.bytes "Basic-User YTpr")], []⟩
    let served := ((small.run [.serve 0 person]).serve 0 (.signed "GET" "/Shot" "" "")).1
    ∃ call method payload, served.calls = [call] ∧
      call.body = .object [("method_name", .string method),
        ("params", .list [(Credentials.script "a" "k").toJson, payload])] := by
  intro person served
  have hone : served.calls.length = 1 := by decide +kernel
  obtain ⟨call, hcalls⟩ := List.length_eq_one_iff.mp hone
  have hknown : (.serve 0 (.signed "GET" "/Shot" "" "") :: [.serve 0 person]).filterMap
      Event.caller? = [.script "a" "k", .user "a" "k"] := rfl
  have hne : Blake3.hash (CacheKey.material "http://a" (.script "a" "k")) ≠
      Blake3.hash (CacheKey.material "http://a" (.user "a" "k")) := by
    decide +kernel
  have hstart : withFormats smallConfig .builtin = .ok small := rfl
  have hboth := run_authenticated [.serve 0 person] 0 (.signed "GET" "/Shot" "" "") hstart
    (by decide) (hknown ▸ by decide) (hknown ▸ Cache.collisionFree_pair hne)
  have hcall : call ∈ served.calls := by
    rw [hcalls]
    exact List.mem_singleton_self call
  obtain ⟨method, payload, hbody⟩ := (hboth.2 (.script "a" "k") rfl).2 call hcall
  exact ⟨call, method, payload, hcalls, hbody⟩

/-- A `HEAD` without credentials is not answered by the very response of its fault. -/
theorem serve_unauthenticated_head :
    let r : Http.Request := ⟨"HEAD", ⟨"/Shot".toList, []⟩, [], []⟩
    ∃ e, Authorization.parse (r.headers.values "authorization") = .error e ∧
      Route.ofPath? r.target.path = some (.collection "Shot".toList) ∧
      (Route.collection "Shot".toList).allows r.method = true ∧
      ∀ b, (small.serve 0 r).1.run b ≠ e.response := by
  intro r
  refine ⟨.unauthorized "Missing or malformed Authorization header", rfl, rfl, rfl, ?_⟩
  intro b h
  have hbody : ((small.serve 0 r).1.run b).body = "" := rfl
  rw [h] at hbody
  exact absurd hbody (by decide)

end Gateway

end RestGateway

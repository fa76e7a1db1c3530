import RestGateway.Gateway.Pipeline
import RestGateway.Proofs.Gateway.Writes
import RestGateway.Proofs.Json.Reading

/-!
# Limits on bodies

A body meets two limits: the configured one around all requests and a fixed one where it is read. The
lower one decides, so nothing that is configured above two mebibytes takes effect.
-/

set_option autoImplicit false

namespace RestGateway

def Task.body? : Task → Option (List UInt8)
  | create _ body | update _ _ body => some body
  | list _ _ | get _ _ _ | summarize _ _ | delete _ _ | revive _ _ => none

theorem Tells.hasBody {formats : Registry} {task : Task} {method : String} {payload : Json}
    (h : Tells formats task method payload) (hm : method = "create" ∨ method = "update") :
    task.body?.isSome = true := by
  cases h with
  | create | update => rfl
  | list | get | summarize | delete | revive => exact absurd hm (by decide)

namespace Asks

variable {limit : Nat} {r : Http.Request} {route : Route} {task : Task}

theorem within {other : Nat} (h : Asks limit r route task) (hb : r.body.length ≤ other) :
    Asks other r route task := by
  cases h with
  | list hm ht => exact .list hm ht
  | create hm ht => exact .create hm ht hb
  | summarize hm ht => exact .summarize hm ht
  | get hm ht hn => exact .get hm ht hn
  | update hm ht hn => exact .update hm ht hn hb
  | delete hm ht hn => exact .delete hm ht hn
  | revive hm ht hn => exact .revive hm ht hn

theorem isForEntities (h : Asks limit r route task) : route.isForEntities = true := by
  cases h <;> rfl

theorem method_ne (h : Asks limit r route task) : r.method ≠ "OPTIONS" := by
  cases h with
  | list hm | summarize hm | get hm => rcases hm with hm | hm <;> rw [hm] <;> decide
  | create hm | update hm | delete hm | revive hm => rw [hm]; decide

theorem write (h : Asks limit r route task) (hb : task.body?.isSome = true) :
    ∃ w, Write.of? route r.method = some w := by
  cases h with
  | create hm => exact ⟨.create, by rw [hm]; rfl⟩
  | update hm => exact ⟨.update, by rw [hm]; rfl⟩
  | list | summarize | get | delete | revive => cases hb

end Asks

namespace Serve

variable {g : Gateway} {limit n : Nat} {r : Http.Request} {client : Client} {route : Route}
  {task : Task}

theorem operation_overlong (h : Asks n r route task) (hb : task.body?.isSome = true)
    (hl : limit < r.body.length) :
    ∃ response, operation g limit r client route = .error response ∧ response.status = 413 := by
  have ha := allows_asked h
  obtain ⟨response, hread, hs⟩ := readBody_error (Nat.not_le.mpr hl)
  refine ⟨response, ?_, hs⟩
  cases h with
  | create hm ht =>
    have hr := isRead_eq_false (Or.inl hm)
    simp [operation, ha, typeSegment, segment_ok.mpr ht, hr, hread]
  | update hm ht hn =>
    have hr := isRead_eq_false (Or.inr (Or.inl hm))
    rw [hm] at ha
    simp [operation, ha, entitySegments_ok ht hn, hr, hm, hread]
  | list | summarize | get | delete | revive => cases hb

end Serve

theorem FirstMatch.found {message : String} {table : List (String × Http.Status)}
    {status : Http.Status} (h : FirstMatch message table status) :
    status = 400 ∨ ∃ p ∈ table, p.2 = status := by
  induction h with
  | none => exact Or.inl rfl
  | here => exact Or.inr ⟨_, List.mem_cons_self, rfl⟩
  | later h hr ih => exact ih.imp_right fun ⟨p, hp, hs⟩ => ⟨p, List.mem_cons_of_mem _ hp, hs⟩

namespace Write

variable {w : Write}

theorem Done.status_ne {results : Option w.Results} {response : Http.Response}
    (h : w.Done results response) : response.status ≠ 413 := by
  cases w with
  | create =>
    have hs : response.status = 201 := congrArg Http.Response.status h
    rw [hs]
    decide
  | update =>
    have hs : response.status = 200 := congrArg Http.Response.status h
    rw [hs]
    decide
  | delete | revive =>
    by_cases hr : results = some true
    · rw [h.1 hr]
      decide
    · rw [h.2 hr]
      decide

theorem finish_status_ne {confirm : Option w.Results → Except GatewayError Http.Response}
    (hc : ∀ results, w.Done results (GatewayError.orResponse (confirm results))) (o : Outcome) :
    (w.finish confirm o).status ≠ 413 := by
  rcases finish_cases hc o with hs | hs | ⟨message, hm⟩ | ⟨reply, e, -, -, -, -, hdone⟩
  · rw [hs]
    decide
  · rw [hs]
    decide
  · have hneedles : ∀ p ∈ w.needles, p.2 ≠ 413 := by cases w <;> decide
    rcases hm.found with hs | ⟨p, hp, hs⟩
    · rw [hs]
      decide
    · exact hs ▸ hneedles p hp
  · exact hdone.status_ne

end Write

theorem Json.Decoder.decode_braces {w : List UInt8} (hw : Json.Reader.Blanks w) :
    Json.Decoder.members.decode (0x7B :: 0x7D :: w) = .ok [] := by
  have hread : Json.Decoder.members Json.Decoder.levels (0x7B :: 0x7D :: w) = .ok ([], w) := rfl
  rw [Json.Decoder.decode, Json.Decoder.run, Json.Reader.whole_ok.mpr ⟨w, hread, hw⟩]
  rfl

namespace Pipeline

variable {g : Gateway} {r : Http.Request} {choice : Nat}

theorem share_status (mode : CorsMode) (response : Http.Response) :
    (share mode response).status = response.status := by
  cases mode <;> rfl

theorem limited_declared {n : Nat} (hd : declaredLength? r = some n)
    (hn : g.config.bodyLimitBytes < n) : limited g choice r = (.answer tooLong, g) := by
  rw [limited, hd]
  exact if_pos (decide_eq_true hn)

theorem declared_passed (hd : ∀ n, declaredLength? r = some n → n ≤ g.config.bodyLimitBytes) :
    ((declaredLength? r).any fun n => g.config.bodyLimitBytes < n) = false := by
  cases h : declaredLength? r with
  | none => rfl
  | some n => exact decide_eq_false (Nat.not_lt.mpr (hd n h))

/-- A request that is let in is served under the limit for its body. -/
theorem limited_passed (hm : r.method ≠ "OPTIONS")
    (hd : ∀ n, declaredLength? r = some n → n ≤ g.config.bodyLimitBytes) :
    (limited g choice r).1 =
      (Serve.plan g choice (limitOf g.config.bodyLimitBytes (declaredLength? r)) r).1.map
        (share (.ofText g.config.service.corsMode)) := by
  simp [limited, declared_passed hd, crossOrigin, hm]

theorem le_limitOf {configured length : Nat} {declared? : Option Nat}
    (h : ∀ n, declared? = some n → n = length) :
    length ≤ limitOf configured declared? ↔ length ≤ min configured readLimit := by
  cases declared? with
  | none => simp only [limitOf]; omega
  | some n =>
    obtain rfl := h n rfl
    simp only [limitOf]
    omega

end Pipeline

namespace Gateway

variable {g : Gateway} {r : Http.Request} {route : Route} {task : Task}

theorem serveLayered_calls (choice : Nat) (fresh : List UInt8) :
    (g.serveLayered choice fresh r).1.calls = (Pipeline.limited g choice r).1.calls := by
  simp [serveLayered]

theorem serveLayered_status (choice : Nat) (fresh : List UInt8) (b : Backend) :
    ((g.serveLayered choice fresh r).1.run b).status =
      ((Pipeline.limited g choice r).1.run b).status := by
  rw [serveLayered, Serve.finish_status, Plan.run_map]
  rfl

theorem serveLayered_overlong {c : Credentials} {n : Nat} (choice : Nat) (fresh : List UInt8)
    (hr : Route.ofPath? r.target.path = some route) (hasks : Asks n r route task)
    (hb : task.body?.isSome = true)
    (hc : Authorization.parse (r.headers.values "authorization") = .ok c)
    (hu : (serverUrl g.clients.host g.clients.apiPath).isOk = true)
    (hlength : ∀ n, Pipeline.declaredLength? r = some n → n = r.body.length)
    (hlong : min g.config.bodyLimitBytes readLimit < r.body.length) :
    (g.serveLayered choice fresh r).1.calls = [] ∧
      ∀ b, ((g.serveLayered choice fresh r).1.run b).status = 413 := by
  obtain ⟨response, hp, hs⟩ : ∃ response,
      (Pipeline.limited g choice r).1 = .answer response ∧ response.status = 413 := by
    by_cases hd : ∀ n, Pipeline.declaredLength? r = some n → n ≤ g.config.bodyLimitBytes
    · let limit := Pipeline.limitOf g.config.bodyLimitBytes (Pipeline.declaredLength? r)
      obtain ⟨client, clients, hg⟩ := Cache.getOrConnect_ok hu choice c
      have hl : limit < r.body.length := by
        rw [← Nat.not_le, Pipeline.le_limitOf hlength]
        exact Nat.not_le.mpr hlong
      obtain ⟨response, ho, hs⟩ : ∃ response,
          Serve.operation { g with clients } limit r client route = .error response ∧
            response.status = 413 := Serve.operation_overlong hasks hb hl
      refine ⟨Pipeline.share (.ofText g.config.service.corsMode) response, ?_, ?_⟩
      · rw [Pipeline.limited_passed hasks.method_ne hd,
          Serve.plan_entities _ _ _ hr hasks.isForEntities, Serve.entityPlan_connected hc hg, ho]
        rfl
      · rw [Pipeline.share_status, hs]
    · obtain ⟨n, hn⟩ := not_forall.mp hd
      obtain ⟨hdeclared, habove⟩ := Classical.not_imp.mp hn
      have hrefused : Pipeline.limited g choice r = (.answer Pipeline.tooLong, g) :=
        Pipeline.limited_declared hdeclared (Nat.not_le.mp habove)
      exact ⟨Pipeline.tooLong, by rw [hrefused], rfl⟩
  constructor
  · rw [serveLayered_calls, hp, Plan.calls_answer]
  · intro b
    rw [serveLayered_status, hp]
    exact hs

/-- The lower of the configured limit and the fixed one decides: a write with a longer body is
refused as too long without a call, and any other one becomes its call and is never refused so. -/
theorem serveLayered_bodyLimit {method : String} {payload : Json} {c : Credentials} (choice : Nat)
    (fresh : List UInt8) (hr : Route.ofPath? r.target.path = some route)
    (hasks : Asks r.body.length r route task) (htells : Tells g.formats task method payload)
    (hmethod : method = "create" ∨ method = "update")
    (hc : Authorization.parse (r.headers.values "authorization") = .ok c)
    (hu : (serverUrl g.clients.host g.clients.apiPath).isOk = true)
    (hlength : ∀ n, Pipeline.declaredLength? r = some n → n = r.body.length) :
    (min g.config.bodyLimitBytes readLimit < r.body.length →
      (g.serveLayered choice fresh r).1.calls = [] ∧
        ∀ b, ((g.serveLayered choice fresh r).1.run b).status = 413) ∧
    (r.body.length ≤ min g.config.bodyLimitBytes readLimit →
      ∃ call, (g.serveLayered choice fresh r).1.calls = [call] ∧
        call.body = .object [("method_name", .string method),
          ("params", .list [call.credentials.toJson, payload])] ∧
        ∀ b, ((g.serveLayered choice fresh r).1.run b).status ≠ 413) := by
  have hb := htells.hasBody hmethod
  refine ⟨serveLayered_overlong choice fresh hr hasks hb hc hu hlength, fun hshort => ?_⟩
  let limit := Pipeline.limitOf g.config.bodyLimitBytes (Pipeline.declaredLength? r)
  have hfits : r.body.length ≤ limit := (Pipeline.le_limitOf hlength).mpr hshort
  have hwithin : Asks limit r route task := hasks.within hfits
  have hd : ∀ n, Pipeline.declaredLength? r = some n → n ≤ g.config.bodyLimitBytes := by
    intro n hn
    rw [hlength n hn]
    exact (Nat.le_min.mp hshort).1
  obtain ⟨client, clients, hg⟩ := Cache.getOrConnect_ok hu choice c
  obtain ⟨w, hw⟩ := hasks.write hb
  obtain ⟨finish, hplan⟩ := Task.plan_tells client htells
  have hlimited : (Pipeline.limited g choice r).1 =
      (task.plan client g.formats).map (Pipeline.share (.ofText g.config.service.corsMode)) := by
    rw [Pipeline.limited_passed hasks.method_ne hd,
      Serve.plan_entities _ _ _ hr hasks.isForEntities, Serve.entityPlan_asked hc hg hwithin]
  refine ⟨client.call method payload, ?_, rfl, fun b => ?_⟩
  · rw [serveLayered_calls, hlimited, hplan]
    rfl
  · rw [serveLayered_status, hlimited, Plan.run_map, Pipeline.share_status]
    rcases Write.plan_cases hw hwithin client g.formats with
      ⟨response, hp, -⟩ | ⟨call, confirm, hp, hdone⟩
    · rw [hplan] at hp
      cases hp
    · rw [hp]
      exact Write.finish_status_ne hdone _

theorem serveLayered_bodyLimit_braces :
    let r : Http.Request := .signed "POST" "/Shot" "" "\x7b\x7d"
    let shut : Gateway :=
      { small with config := { smallConfig with
          service := { smallConfig.service with bodyLimit := 0 } } }
    (∃ call, (small.serveLayered 0 [] r).1.calls = [call]) ∧
      (shut.serveLayered 0 [] r).1.calls = [] := by
  intro r shut
  have hasks : Asks r.body.length r (.collection "Shot".toList) (.create "Shot" r.body) :=
    .create rfl rfl (Nat.le_refl _)
  have htells (g : Gateway) :
      Tells g.formats (.create "Shot" r.body) "create" (CreateQuery.make "Shot" []).toJson :=
    .create rfl
  have hundeclared : ∀ n, Pipeline.declaredLength? r = some n → n = r.body.length := by
    intro n hn
    have hnone : Pipeline.declaredLength? r = none := by decide +kernel
    cases hnone.symm.trans hn
  have hu : (serverUrl small.clients.host small.clients.apiPath).isOk = true := rfl
  constructor
  · obtain ⟨call, hcalls, -⟩ := (serveLayered_bodyLimit 0 [] rfl hasks (htells small) (Or.inl rfl)
      rfl hu hundeclared).2 (by decide)
    exact ⟨call, hcalls⟩
  · exact ((serveLayered_bodyLimit 0 [] rfl hasks (htells shut) (Or.inl rfl)
      rfl hu hundeclared).1 (by decide)).1

/-- Ten mebibytes are configured, but a body of two mebibytes and one byte is too long. -/
theorem serveLayered_limited :
    let r : Http.Request :=
      { Http.Request.signed "POST" "/Shot" "" "" with
        body := 0x7B :: 0x7D :: List.replicate 2097151 0x20 }
    r.body.length ≤ small.config.bodyLimitBytes ∧
      Asks r.body.length r (.collection "Shot".toList) (.create "Shot" r.body) ∧
      Json.Decoder.members.decode r.body = .ok [] ∧ Pipeline.declaredLength? r = none ∧
      (small.serveLayered 0 [] r).1.calls = [] ∧
      ∀ b, ((small.serveLayered 0 [] r).1.run b).status = 413 := by
  intro r
  have hbody : r.body = 0x7B :: 0x7D :: List.replicate 2097151 0x20 := rfl
  have hsize : r.body.length = 2097153 := by
    rw [hbody, List.length_cons, List.length_cons, List.length_replicate]
  have hasks : Asks r.body.length r (.collection "Shot".toList) (.create "Shot" r.body) :=
    .create rfl rfl (Nat.le_refl _)
  have hnone : Pipeline.declaredLength? r = none := rfl
  have hlength : ∀ n, Pipeline.declaredLength? r = some n → n = r.body.length := by
    intro n hn
    cases hnone.symm.trans hn
  have hlong : min small.config.bodyLimitBytes readLimit < r.body.length := by
    rw [hsize]
    decide
  have hblanks : Json.Reader.Blanks (List.replicate 2097151 0x20) := by
    intro b hb
    rw [List.eq_of_mem_replicate hb]
    decide
  refine ⟨?_, hasks, Json.Decoder.decode_braces hblanks, hnone, ?_⟩
  · rw [hsize]
    decide
  · exact serveLayered_overlong 0 [] rfl hasks rfl rfl rfl hlength hlong

end Gateway

end RestGateway

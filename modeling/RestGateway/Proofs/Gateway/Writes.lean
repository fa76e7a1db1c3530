import Mathlib.Tactic.SplitIfs
import RestGateway.Proofs.Backend.Exceptions
import RestGateway.Proofs.Gateway.Replies
import RestGateway.Proofs.Gateway.Translation

/-!
# Writes

Four requests change entities. They differ in what counts as confirmation by the backend and in the
exceptions they know; all else about their answers is the same.
-/

set_option autoImplicit false

namespace RestGateway

inductive Write where
  | create
  | update
  | delete
  | revive
  deriving DecidableEq

namespace Write

def of? : Route → String → Option Write
  | .collection _, method => if method = "POST" then some create else none
  | .entity _ _, method =>
    if method = "PATCH" then some update else if method = "DELETE" then some delete else none
  | .revival _ _, method => if method = "POST" then some revive else none
  | .versions, _ | .icon, _ | .summary _, _ => none

/-- What the backend confirms a write with: the object as it is now, or a truth value. -/
def Results : Write → Type
  | create | update => Members
  | delete | revive => Bool

def results : (w : Write) → Json.Decoder w.Results
  | create | update => Json.Decoder.members
  | delete | revive => Json.Decoder.boolean

def needles : Write → List (String × Http.Status)
  | create => [("unique", 409), ("Permission", 403)]
  | update => [("unique", 409), ("Permission", 403), ("does not exist", 404)]
  | delete | revive => [("Permission", 403), ("does not exist", 404)]

/-- The answer to a write that caused no exception. -/
def Done : (w : Write) → Option w.Results → Http.Response → Prop
  | create, results, response => response = .json 201 (.object (Option.getD results []))
  | update, results, response => response = .json 200 (.object (Option.getD results []))
  | delete, results, response | revive, results, response =>
    (results = some true → response.status = 200) ∧ (results ≠ some true → response.status = 404)

/-- How a write is answered to a reply. -/
structure Answered (w : Write) (reply : Reply) (response : Http.Response) : Prop where
  useless : (reply.status.isServerError = true ∨ ¬ ∃ e, reply.Carries w.results e) →
    response = .badGateway
  exception : ∀ e, reply.status.isServerError = false → reply.Carries w.results e →
    e.exception = true → ∃ status code, FirstMatch (e.message?.getD "") w.needles status ∧
      response = .json status (.object [("error", .string (e.message?.getD "")),
        ("code", .string code), ("status", .number (.int status))])
  done : ∀ e, reply.status.isServerError = false → reply.Carries w.results e →
    e.exception = false → w.Done e.results response

end Write

namespace Entities

variable {α : Type} {rules : Classifier} {results : Json.Decoder α} {reply : Reply}

theorem writeResults_useless
    (h : reply.status.isServerError = true ∨ ¬ ∃ e, reply.Carries results e) :
    ∃ error, writeResults rules results (.ok reply) = .error error ∧
      error.response = .badGateway := by
  obtain ⟨error, he, hr⟩ := Outcome.envelope_useless h
  exact ⟨error, by simp [writeResults, he], hr⟩

theorem writeResults_done {e : Envelope α} (hs : reply.status.isServerError = false)
    (h : reply.Carries results e) (hx : e.exception = false) :
    writeResults rules results (.ok reply) = .ok e.results := by
  simp [writeResults, Outcome.envelope_carried hs h, Classifier.classify, hx,
    GatewayError.ofCategory]

theorem writeResults_exception {e : Envelope α} (hr : ∀ r ∈ rules.rules, r.category ≠ .success)
    (hs : reply.status.isServerError = false) (h : reply.Carries results e)
    (hx : e.exception = true) :
    ∃ error status code, writeResults rules results (.ok reply) = .error error ∧
      FirstMatch e.message rules.table status ∧
      error.response = .json status (.object [("error", .string e.message),
        ("code", .string code), ("status", .number (.int status))]) := by
  have hne := Classifier.classifyMessage_ne_success hr e.message
  obtain ⟨error, code, he, hresponse⟩ := GatewayError.ofCategory_response hne e.message
  refine ⟨error, _, code, ?_, rules.classifyMessage_firstMatch e.message, hresponse⟩
  simp [writeResults, Outcome.envelope_carried hs h, Classifier.classify, hx, he]

end Entities

namespace Write

variable {w : Write}

def rules : Write → Classifier
  | create => .forCreate
  | update => .forUpdate
  | delete => .forDelete
  | revive => .forRevive

theorem rules_table (w : Write) : w.rules.table = w.needles := by
  cases w <;> rfl

theorem rules_fail (w : Write) : ∀ r ∈ w.rules.rules, r.category ≠ .success := by
  cases w <;> decide

def finish (w : Write) (confirm : Option w.Results → Except GatewayError Http.Response)
    (o : Outcome) : Http.Response :=
  GatewayError.orResponse (Entities.writeResults w.rules w.results o >>= confirm)

theorem finish_answered {confirm : Option w.Results → Except GatewayError Http.Response}
    (hc : ∀ results, w.Done results (GatewayError.orResponse (confirm results))) (reply : Reply) :
    w.Answered reply (w.finish confirm (.ok reply)) where
  useless h := by
    obtain ⟨error, he, hr⟩ : ∃ error,
        Entities.writeResults w.rules w.results (.ok reply) = .error error ∧
          error.response = .badGateway := Entities.writeResults_useless h
    simp [finish, he, GatewayError.orResponse, hr]
  exception e hs h hx := by
    obtain ⟨error, status, code, he, hm, hr⟩ :=
      Entities.writeResults_exception w.rules_fail hs h hx
    refine ⟨status, code, w.rules_table ▸ hm, ?_⟩
    simp [finish, he, GatewayError.orResponse, hr, Envelope.message]
  done e hs h hx := by
    rw [finish, Entities.writeResults_done hs h hx]
    exact hc e.results

theorem change_done {message : String} (results : Option Bool) :
    let response := GatewayError.orResponse
      (if results = some true then .ok (.empty 200) else .error (.notFound message))
    (results = some true → response.status = 200) ∧
      (results ≠ some true → response.status = 404) := by
  intro response
  constructor
  · intro h
    simp only [response, if_pos h]
    rfl
  · intro h
    simp only [response, if_neg h]
    rfl

theorem plan_cases {limit : Nat} {r : Http.Request} {route : Route} {task : Task}
    (hw : of? route r.method = some w) (h : Asks limit r route task) (client : Client)
    (formats : Registry) :
    (∃ response, task.plan client formats = .answer response ∧ 400 ≤ response.status) ∨
    ∃ call confirm, task.plan client formats = .ask call (w.finish confirm) ∧
      ∀ results, w.Done results (GatewayError.orResponse (confirm results)) := by
  by_cases ht : ∃ method payload, Tells formats task method payload
  · obtain ⟨method, payload, ht⟩ := ht
    refine Or.inr ?_
    cases h with
    | list hm | get hm => rcases hm with hm | hm <;> simp [of?, hm] at hw
    | summarize hm => cases hw
    | @create raw t hm =>
      obtain rfl : create = w := by simpa [of?, hm] using hw
      cases ht with
      | @create _ _ members hbody =>
        refine ⟨client.call "create" (CreateQuery.make t members).toJson,
          fun results => .ok (Entities.written 201 results), ?_, fun results => rfl⟩
        rw [Task.plan, Entities.create, Entities.decodeBody, hbody]
        rfl
    | @update rawType rawId t n hm =>
      obtain rfl : update = w := by simpa [of?, hm] using hw
      cases ht with
      | @update _ _ _ members hbody =>
        refine ⟨client.call "update" (UpdateQuery.make t n members).toJson,
          fun results => .ok (Entities.written 200 results), ?_, fun results => rfl⟩
        rw [Task.plan, Entities.update, Entities.decodeBody, hbody]
        rfl
    | delete hm =>
      obtain rfl : delete = w := by simpa [of?, hm] using hw
      exact ⟨_, _, rfl, change_done⟩
    | revive hm =>
      obtain rfl : revive = w := by simpa [of?, hm] using hw
      exact ⟨_, _, rfl, change_done⟩
  · obtain ⟨response, hp, hs⟩ := Task.plan_untold client ht
    exact Or.inl ⟨response, hp, by rw [hs]⟩

theorem of_isForEntities {route : Route} {method : String} (hw : of? route method = some w) :
    route.isForEntities = true := by
  cases route with
  | versions | icon | summary => cases hw
  | collection | entity | revival => rfl

theorem of_allows {route : Route} {method : String} (hw : of? route method = some w) :
    route.allows method = true ∧ method ≠ "HEAD" := by
  unfold of? at hw
  split at hw
  · split_ifs at hw with hm
    exact hm ▸ ⟨rfl, by decide⟩
  · split_ifs at hw with hm hm
    · exact hm ▸ ⟨rfl, by decide⟩
    · exact hm ▸ ⟨rfl, by decide⟩
  · split_ifs at hw with hm
    exact hm ▸ ⟨rfl, by decide⟩
  · cases hw
  · cases hw
  · cases hw

theorem finish_cases {confirm : Option w.Results → Except GatewayError Http.Response}
    (hc : ∀ results, w.Done results (GatewayError.orResponse (confirm results))) (o : Outcome) :
    (w.finish confirm o).status = 500 ∨ (w.finish confirm o).status = 502 ∨
    (∃ message, FirstMatch message w.needles (w.finish confirm o).status) ∨
    ∃ reply e, o = .ok reply ∧ reply.status.isServerError = false ∧
      reply.Carries w.results e ∧ e.exception = false ∧ w.Done e.results (w.finish confirm o) := by
  cases o with
  | error reason => exact Or.inl rfl
  | ok reply =>
    have ha := finish_answered hc reply
    by_cases hu : reply.status.isServerError = true ∨ ¬ ∃ e, reply.Carries w.results e
    · have hs : (w.finish confirm (.ok reply)).status = 502 := by
        rw [ha.useless hu]
        rfl
      exact Or.inr (Or.inl hs)
    · simp only [not_or, Bool.not_eq_true, not_not] at hu
      obtain ⟨hs, e, he⟩ := hu
      cases hx : e.exception with
      | true =>
        obtain ⟨status, code, hm, hr⟩ := ha.exception e hs he hx
        have hstatus : (w.finish confirm (.ok reply)).status = status := by
          rw [hr]
          rfl
        exact Or.inr (Or.inr (Or.inl ⟨_, hstatus ▸ hm⟩))
      | false => exact Or.inr (Or.inr (Or.inr ⟨reply, e, rfl, hs, he, hx, ha.done e hs he hx⟩))

/-- A write is answered as done only after a reply that confirms it. -/
theorem finish_confirmed {confirm : Option w.Results → Except GatewayError Http.Response}
    (hc : ∀ results, w.Done results (GatewayError.orResponse (confirm results))) {o : Outcome}
    (h : (w.finish confirm o).status < 400) :
    ∃ reply e, o = .ok reply ∧ reply.status.isServerError = false ∧
      reply.Carries w.results e ∧ e.exception = false ∧ w.Done e.results (w.finish confirm o) := by
  rcases finish_cases hc o with hs | hs | ⟨message, hm⟩ | hdone
  · rw [hs] at h
    exact absurd h (by decide)
  · rw [hs] at h
    exact absurd h (by decide)
  · have hge : 400 ≤ (w.finish confirm o).status := hm.status_ge (by cases w <;> decide)
    exact absurd hge (Nat.not_le.mpr h)
  · exact hdone

end Write

namespace Gateway

variable {g : Gateway} {r : Http.Request} {route : Route} {w : Write}

theorem serve_write_cases (g : Gateway) (choice : Nat)
    (hr : Route.ofPath? r.target.path = some route) (hw : Write.of? route r.method = some w) :
    (∃ response, (g.serve choice r).1 = .answer response ∧ 400 ≤ response.status) ∨
    ∃ call confirm, (g.serve choice r).1 = .ask call (w.finish confirm) ∧
      ∀ results, w.Done results (GatewayError.orResponse (confirm results)) := by
  have he := Write.of_isForEntities hw
  obtain ⟨ha, hm⟩ := Write.of_allows hw
  rw [serve_entities hr he, Serve.finish_of_ne _ hr ha hm]
  rcases Serve.entityPlan_cases g choice readLimit r he with
    ⟨response, hp, hs⟩ | ⟨c, client, clients, task, -, -, hasks, hp⟩
  · exact Or.inl ⟨response, hp, hs⟩
  · rw [hp]
    exact Write.plan_cases hw hasks client g.formats

/-- Whatever the backend replies to the call of a write decides the answer. -/
theorem serve_write {call : Call} {reply : Reply} (choice : Nat) (b : Backend)
    (hr : Route.ofPath? r.target.path = some route) (hw : Write.of? route r.method = some w)
    (hcall : call ∈ (g.serve choice r).1.calls) (hb : b call = .ok reply) :
    w.Answered reply ((g.serve choice r).1.run b) := by
  rcases serve_write_cases g choice hr hw with ⟨response, hp, -⟩ | ⟨call', confirm, hp, hc⟩
  · rw [hp, Plan.calls_answer] at hcall
    cases hcall
  · rw [hp, Plan.calls_ask] at hcall
    obtain rfl := List.mem_singleton.mp hcall
    have hrun : (g.serve choice r).1.run b = w.finish confirm (.ok reply) := by
      rw [hp, ← hb]
      rfl
    rw [hrun]
    exact Write.finish_answered hc reply

theorem serve_write_exception :
    let r : Http.Request := .signed "POST" "/Shot" "" "\x7b\x7d"
    let reply : Reply := ⟨200, .ok (Utf8.bytes
      "\x7b\"exception\":true,\"message\":\"Permission: code is not unique\"\x7d")⟩
    let response := (small.serve 0 r).1.run fun _ => .ok reply
    Write.create.Answered reply response ∧ response.status = 409 := by
  intro r reply response
  have hone : (small.serve 0 r).1.calls.length = 1 := by decide +kernel
  obtain ⟨call, hcalls⟩ := List.length_eq_one_iff.mp hone
  have hcall : call ∈ (small.serve 0 r).1.calls := by
    rw [hcalls]
    exact List.mem_singleton_self call
  have hr : Route.ofPath? r.target.path = some (.collection "Shot".toList) := rfl
  have hw : Write.of? (.collection "Shot".toList) r.method = some .create := rfl
  exact ⟨serve_write 0 (fun _ => .ok reply) hr hw hcall rfl, by decide +kernel⟩

/-- A write is answered as done only if the backend replied to its one call, without a server error
and with an envelope that reports no exception. -/
theorem serve_confirmed (g : Gateway) (choice : Nat) (b : Backend)
    (hr : Route.ofPath? r.target.path = some route) (hw : Write.of? route r.method = some w)
    (hs : ((g.serve choice r).1.run b).status = 200 ∨ ((g.serve choice r).1.run b).status = 201) :
    ∃ call reply e, (g.serve choice r).1.calls = [call] ∧ b call = .ok reply ∧
      reply.status.isServerError = false ∧ reply.Carries w.results e ∧ e.exception = false ∧
      w.Done e.results ((g.serve choice r).1.run b) := by
  have hlow : ((g.serve choice r).1.run b).status < 400 := by
    rcases hs with hs | hs <;> rw [hs] <;> decide
  rcases serve_write_cases g choice hr hw with ⟨response, hp, hge⟩ | ⟨call, confirm, hp, hc⟩
  · rw [hp] at hlow
    exact absurd hge (Nat.not_le.mpr hlow)
  · rw [hp] at hlow ⊢
    obtain ⟨reply, e, ho, hserver, he, hx, hdone⟩ := Write.finish_confirmed hc hlow
    exact ⟨call, reply, e, rfl, ho, hserver, he, hx, hdone⟩

theorem serve_confirmed_created :
    let r : Http.Request := .signed "POST" "/Shot" "" "\x7b\x7d"
    let reply : Reply := ⟨200, .ok (Utf8.bytes "\x7b\"results\":\x7b\"id\":7\x7d\x7d")⟩
    ∃ e, reply.Carries Write.create.results e ∧ e.exception = false ∧
      Write.create.Done e.results ((small.serve 0 r).1.run fun _ => .ok reply) := by
  intro r reply
  have hr : Route.ofPath? r.target.path = some (.collection "Shot".toList) := rfl
  have hw : Write.of? (.collection "Shot".toList) r.method = some .create := rfl
  have hs : ((small.serve 0 r).1.run fun _ => .ok reply).status = 201 := by decide +kernel
  obtain ⟨call, found, e, -, hfound, -, he, hx, hdone⟩ :=
    serve_confirmed small 0 (fun _ => .ok reply) hr hw (Or.inr hs)
  obtain rfl : reply = found := Except.ok.inj hfound
  exact ⟨e, he, hx, hdone⟩

/-- A client error and a reply without results pass for confirmations. -/
theorem serve_unconfirmed :
    let r : Http.Request := .signed "POST" "/Shot" "" "\x7b\x7d"
    let refused : Reply := ⟨403, .ok (Utf8.bytes "\x7b\"results\":\x7b\"id\":7\x7d\x7d")⟩
    let silent : Reply := ⟨200, .ok (Utf8.bytes "\x7b\x7d")⟩
    (refused.status.isClientError = true ∧
      ((small.serve 0 r).1.run fun _ => .ok refused).status = 201) ∧
    ((¬ ∃ e, silent.Carries Write.create.results e ∧ e.results.isSome = true) ∧
      ((small.serve 0 r).1.run fun _ => .ok silent).status = 201) := by
  intro r refused silent
  refine ⟨⟨by decide, by decide +kernel⟩, ?_, by decide +kernel⟩
  rintro ⟨e, ⟨bytes, hb, he⟩, hsome⟩
  cases hb
  have hnone : (((Envelope.decoder Write.create.results).decode
      (Utf8.bytes "\x7b\x7d")).toOption.bind Envelope.results).isSome = false := by
    decide +kernel
  rw [he] at hnone
  exact absurd hsome (Bool.eq_false_iff.mp hnone)

end Gateway

end RestGateway

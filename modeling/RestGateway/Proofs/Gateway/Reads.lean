import Mathlib.Tactic.SplitIfs
import RestGateway.Proofs.Gateway.Replies
import RestGateway.Proofs.Gateway.Translation

/-!
# Reads

Three requests read entities. An exception that the backend reports is passed on with its message
as it is, whatever the message says. The requests differ in what they make of results that are
missing or empty.
-/

set_option autoImplicit false

namespace RestGateway

inductive Read where
  | list
  | get
  | summarize
  deriving DecidableEq

namespace Read

def of? (route : Route) (method : String) : Option Read :=
  if method = "GET" ∨ method = "HEAD" then
    match route with
    | .collection _ => some list
    | .entity _ _ => some get
    | .summary _ => some summarize
    | .versions | .icon | .revival _ _ => none
  else none

/-- What the backend answers a read with: a page of entities, or a summary. -/
def Results : Read → Type
  | list | get => EntityPage
  | summarize => SummaryResults

def results : (rd : Read) → Json.Decoder rd.Results
  | list | get => EntityPage.decoder
  | summarize => SummaryResults.decoder

def found : Option EntityPage → List Members
  | some page => page.entities
  | none => []

/-- The answer to a read that caused no exception. -/
def Done : (rd : Read) → Option rd.Results → Http.Response → Prop
  | list, results, response =>
    (found results = [] → response = .empty 204) ∧
      (found results ≠ [] → response = .json 200 (.list ((found results).map .object)))
  | get, results, response =>
    (∀ entity rest, found results = entity :: rest → response = .json 200 (.object entity)) ∧
      (found results = [] → response.status = 404)
  | summarize, results, response =>
    response = .json 200 (SummaryResults.toJson (Option.getD results ⟨[], []⟩))

def passedOn (message : String) : Http.Response :=
  .json 500 (.object [("error", .string message), ("code", .string "BACKEND_EXCEPTION"),
    ("status", .number (.int 500))])

/-- How a read is answered to a reply. -/
structure Answered (rd : Read) (reply : Reply) (response : Http.Response) : Prop where
  useless : (reply.status.isServerError = true ∨ ¬ ∃ e, reply.Carries rd.results e) →
    response = .badGateway
  exception : ∀ e, reply.status.isServerError = false → reply.Carries rd.results e →
    e.exception = true → response = passedOn (e.message?.getD "")
  done : ∀ e, reply.status.isServerError = false → reply.Carries rd.results e →
    e.exception = false → rd.Done e.results response

end Read

namespace Entities

variable {α : Type} {results : Json.Decoder α} {reply : Reply}

theorem readResults_useless
    (h : reply.status.isServerError = true ∨ ¬ ∃ e, reply.Carries results e) :
    ∃ error, readResults results (.ok reply) = .error error ∧ error.response = .badGateway := by
  obtain ⟨error, he, hr⟩ := Outcome.envelope_useless h
  exact ⟨error, by simp [readResults, he], hr⟩

theorem readResults_done {e : Envelope α} (hs : reply.status.isServerError = false)
    (h : reply.Carries results e) (hx : e.exception = false) :
    readResults results (.ok reply) = .ok e.results := by
  simp [readResults, Outcome.envelope_carried hs h, hx]

theorem readResults_exception {e : Envelope α} (hs : reply.status.isServerError = false)
    (h : reply.Carries results e) (hx : e.exception = true) :
    readResults results (.ok reply) = .error (.exception e.message) := by
  simp [readResults, Outcome.envelope_carried hs h, hx]

end Entities

namespace Read

variable {rd : Read}

def finish (rd : Read) (tell : Option rd.Results → Except GatewayError Http.Response)
    (o : Outcome) : Http.Response :=
  GatewayError.orResponse (Entities.readResults rd.results o >>= tell)

theorem finish_answered {tell : Option rd.Results → Except GatewayError Http.Response}
    (hd : ∀ results, rd.Done results (GatewayError.orResponse (tell results))) (reply : Reply) :
    rd.Answered reply (rd.finish tell (.ok reply)) where
  useless h := by
    obtain ⟨error, he, hr⟩ : ∃ error,
        Entities.readResults rd.results (.ok reply) = .error error ∧
          error.response = .badGateway := Entities.readResults_useless h
    simp [finish, he, GatewayError.orResponse, hr]
  exception e hs h hx := by
    rw [finish, Entities.readResults_exception hs h hx]
    rfl
  done e hs h hx := by
    rw [finish, Entities.readResults_done hs h hx]
    exact hd e.results

def tellList (results : Option EntityPage) : Except GatewayError Http.Response :=
  .ok (Entities.listResponse (found results))

def tellFirst (entityType : String) (id : Int) (results : Option EntityPage) :
    Except GatewayError Http.Response :=
  match (found results).head? with
  | some entity => .ok (.json 200 (.object entity))
  | none => .error (.notFound (entityType ++ " " ++ toString id ++ " not found"))

def tellSummary (results : Option SummaryResults) : Except GatewayError Http.Response :=
  .ok (.json 200 (results.getD .blank).toJson)

theorem tellList_done (results : Option EntityPage) :
    list.Done results (GatewayError.orResponse (tellList results)) := by
  constructor
  · intro h
    simp [tellList, Entities.listResponse, GatewayError.orResponse, h]
  · intro h
    simp [tellList, Entities.listResponse, GatewayError.orResponse, h]

theorem tellFirst_done (entityType : String) (id : Int) (results : Option EntityPage) :
    get.Done results (GatewayError.orResponse (tellFirst entityType id results)) := by
  constructor
  · intro entity rest h
    simp [tellFirst, GatewayError.orResponse, h]
  · intro h
    simp [tellFirst, GatewayError.orResponse, h, GatewayError.status]

theorem getD_found (results : Option EntityPage) :
    (results.getD .blank).entities = found results := by
  cases results <;> rfl

theorem ask_entities (c : Call) (tell : List Members → Except GatewayError Http.Response) :
    Entities.ask c (fun o => Entities.entities o >>= tell) =
      .ask c fun o => GatewayError.orResponse
        (Entities.readResults EntityPage.decoder o >>= fun results => tell (found results)) := by
  unfold Entities.ask
  congr 1
  funext o
  cases h : Entities.readResults EntityPage.decoder o <;> simp [Entities.entities, h, getD_found]

theorem plan_cases {limit : Nat} {r : Http.Request} {route : Route} {task : Task}
    (hrd : of? route r.method = some rd) (h : Asks limit r route task) (client : Client)
    (formats : Registry) :
    (∃ response, task.plan client formats = .answer response) ∨
    ∃ call tell, task.plan client formats = .ask call (rd.finish tell) ∧
      ∀ results, rd.Done results (GatewayError.orResponse (tell results)) := by
  by_cases ht : ∃ method payload, Tells formats task method payload
  · obtain ⟨method, payload, ht⟩ := ht
    refine Or.inr ?_
    cases h with
    | @list raw t hm =>
      obtain rfl : list = rd := by simpa [of?, hm] using hrd
      cases ht with
      | @list _ _ q hq =>
        refine ⟨client.call "read" q.toJson, tellList, ?_, tellList_done⟩
        rw [Task.plan, Entities.list, hq]
        exact ask_entities _ _
    | @get rawType rawId t n hm =>
      obtain rfl : get = rd := by simpa [of?, hm] using hrd
      exact ⟨_, tellFirst t n, ask_entities _ _, tellFirst_done t n⟩
    | @summarize raw t hm =>
      obtain rfl : summarize = rd := by simpa [of?, hm] using hrd
      cases ht with
      | @summarize _ _ q hq =>
        refine ⟨client.call "summarize" q.toJson, tellSummary, ?_, fun results => rfl⟩
        rw [Task.plan, Entities.summarize, hq]
        rfl
    | create hm | update hm | delete hm | revive hm => simp [of?, hm] at hrd
  · obtain ⟨response, hp, -⟩ := Task.plan_untold client ht
    exact Or.inl ⟨response, hp⟩

theorem of_route {route : Route} {method : String} (hrd : of? route method = some rd) :
    route.isForEntities = true ∧ route.allows method = true := by
  unfold of? at hrd
  split_ifs at hrd with hm
  cases route with
  | versions | icon | revival => cases hrd
  | collection | summary | entity => rcases hm with rfl | rfl <;> exact ⟨rfl, rfl⟩

end Read

namespace Gateway

variable {g : Gateway} {r : Http.Request} {route : Route} {rd : Read}

/-- Whatever the backend replies to the call of a read decides the answer; a `HEAD` gets it without
the body. -/
theorem serve_read {call : Call} {reply : Reply} (choice : Nat) (b : Backend)
    (hr : Route.ofPath? r.target.path = some route) (hrd : Read.of? route r.method = some rd)
    (hcall : call ∈ (g.serve choice r).1.calls) (hb : b call = .ok reply) :
    ∃ response, rd.Answered reply response ∧
      (g.serve choice r).1.run b = if r.isHead then { response with body := "" } else response := by
  obtain ⟨he, ha⟩ := Read.of_route hrd
  rw [serve_entities hr he, Serve.finish_calls] at hcall
  rw [serve_entities hr he, Serve.finish_run b _ hr ha]
  rcases Serve.entityPlan_cases g choice readLimit r he with
    ⟨response, hp, -⟩ | ⟨c, client, clients, task, -, -, hasks, hp⟩
  · rw [hp, Plan.calls_answer] at hcall
    cases hcall
  · rw [hp] at hcall ⊢
    rcases Read.plan_cases hrd hasks client g.formats with ⟨response, hp⟩ | ⟨call', tell, hp, hd⟩
    · rw [hp, Plan.calls_answer] at hcall
      cases hcall
    · rw [hp, Plan.calls_ask] at hcall
      obtain rfl := List.mem_singleton.mp hcall
      refine ⟨rd.finish tell (.ok reply), Read.finish_answered hd reply, ?_⟩
      rw [hp, ← hb]
      rfl

theorem serve_read_listed :
    let r : Http.Request := .signed "GET" "/Shot" "" ""
    let reply : Reply := ⟨404, .ok (Utf8.bytes
      "\x7b\"results\":\x7b\"entities\":[\x7b\"id\":9\x7d,\x7b\"id\":7\x7d]\x7d\x7d")⟩
    let response := (small.serve 0 r).1.run fun _ => .ok reply
    Read.list.Answered reply response ∧ response.body = "[\x7b\"id\":9\x7d,\x7b\"id\":7\x7d]" := by
  intro r reply response
  have hone : (small.serve 0 r).1.calls.length = 1 := by decide +kernel
  obtain ⟨call, hcalls⟩ := List.length_eq_one_iff.mp hone
  have hcall : call ∈ (small.serve 0 r).1.calls := by
    rw [hcalls]
    exact List.mem_singleton_self call
  have hr : Route.ofPath? r.target.path = some (.collection "Shot".toList) := rfl
  have hrd : Read.of? (.collection "Shot".toList) r.method = some .list := rfl
  obtain ⟨found, ha, hfound⟩ := serve_read 0 (fun _ => .ok reply) hr hrd hcall rfl
  have hsame : response = found := hfound
  exact ⟨hsame ▸ ha, by decide +kernel⟩

end Gateway

end RestGateway

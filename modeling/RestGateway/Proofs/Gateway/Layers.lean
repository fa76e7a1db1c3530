import RestGateway.Proofs.Gateway.BodyLimit
import RestGateway.Proofs.Gateway.Headers

/-!
# What the pipeline leaves alone

A request that is let in is answered as it would be without the pipeline, but for some headers. The
id among them is on every answer, also where the request was not let in.
-/

set_option autoImplicit false

namespace RestGateway

namespace Serve

variable {g : Gateway} {choice limit other : Nat} {r : Http.Request} {client : Client}
  {route : Route}

def readsBody (r : Http.Request) : Prop := r.method = "POST" ∨ r.method = "PATCH"

theorem readBody_congr (h : r.body.length ≤ limit ↔ r.body.length ≤ other) :
    readBody limit r = readBody other r := by
  simp only [readBody, h]

theorem operation_congr (h : readsBody r → (r.body.length ≤ limit ↔ r.body.length ≤ other)) :
    operation g limit r client route = operation g other r client route := by
  by_cases hreads : readsBody r
  · simp only [operation, readBody_congr (h hreads)]
  · cases ha : route.allows r.method with
    | false => rw [operation_disallowed ha, operation_disallowed ha]
    | true =>
      have hm : r.method ∈ route.methods := List.contains_iff_mem.mp ha
      obtain ⟨hpost, hpatch⟩ := not_or.mp hreads
      cases route with
      | collection raw =>
        have hread : isRead r = true := by
          simpa [Route.methods, hpost, isRead_iff] using hm
        simp only [operation, hread, if_true]
      | entity rawType rawId => simp only [operation, hpatch, if_false]
      | versions | icon | summary | revival => rfl

theorem plan_congr (h : readsBody r → (r.body.length ≤ limit ↔ r.body.length ≤ other)) :
    plan g choice limit r = plan g choice other r := by
  have hentity : ∀ route,
      entityPlan g choice limit r route = entityPlan g choice other r route := by
    intro route
    simp only [entityPlan, operation_congr h]
  simp only [plan, hentity]

end Serve

/-- Plans that make the same calls and end with the same status and body. -/
structure Plan.SameAnswers (p q : Plan) : Prop where
  calls : p.calls = q.calls
  status : ∀ b, (p.run b).status = (q.run b).status
  body : ∀ b, (p.run b).body = (q.run b).body

theorem Plan.sameAnswers_map {f : Http.Response → Http.Response} (p : Plan)
    (hs : ∀ response, (f response).status = response.status)
    (hb : ∀ response, (f response).body = response.body) : (p.map f).SameAnswers p where
  calls := calls_map f p
  status b := by rw [run_map, hs]
  body b := by rw [run_map, hb]

theorem Plan.SameAnswers.trans {p q s : Plan} (h : p.SameAnswers q) (h' : q.SameAnswers s) :
    p.SameAnswers s where
  calls := h.calls.trans h'.calls
  status b := (h.status b).trans (h'.status b)
  body b := (h.body b).trans (h'.body b)

theorem Serve.addAllowed_body (r : Http.Request) (response : Http.Response) :
    (addAllowed r response).body = response.body := by
  unfold addAllowed
  split
  · split <;> rfl
  · rfl

theorem Serve.finish_sameAnswers {p q : Plan} (r : Http.Request) (h : p.SameAnswers q) :
    (finish r p).SameAnswers (finish r q) where
  calls := by rw [finish_calls, finish_calls, h.calls]
  status b := by rw [finish_status, finish_status, h.status]
  body b := by
    simp only [finish, Plan.run_map, dropBody]
    split
    · rfl
    · rw [addAllowed_body, addAllowed_body, h.body]

namespace Pipeline

variable {g : Gateway} {choice : Nat} {r : Http.Request}

theorem share_body (mode : CorsMode) (response : Http.Response) :
    (share mode response).body = response.body := by
  cases mode <;> rfl

/-- What a request must be like to meet no limit but the one that is there without the pipeline. A
body that is read must not be longer than it was declared. -/
structure LetsIn (g : Gateway) (r : Http.Request) : Prop where
  method : r.method ≠ "OPTIONS"
  actual : r.body.length ≤ g.config.bodyLimitBytes
  declared : ∀ n, declaredLength? r = some n → n ≤ g.config.bodyLimitBytes
  covered : Serve.readsBody r → ∀ n, declaredLength? r = some n → r.body.length ≤ n

theorem limitOf_readLimit (h : LetsIn g r) (hreads : Serve.readsBody r) :
    r.body.length ≤ limitOf g.config.bodyLimitBytes (declaredLength? r) ↔
      r.body.length ≤ readLimit := by
  have hactual := h.actual
  cases hd : declaredLength? r with
  | none =>
    simp only [limitOf]
    omega
  | some n =>
    have hcovered := h.covered hreads n hd
    simp only [limitOf]
    omega

/-- A request that is let in is planned as without the pipeline, for pages of whatever origin. -/
theorem limited_letsIn (h : LetsIn g r) :
    limited g choice r =
      ((Serve.plan g choice readLimit r).1.map (share (.ofText g.config.service.corsMode)),
        (Serve.plan g choice readLimit r).2) := by
  have hplan : Serve.plan g choice (limitOf g.config.bodyLimitBytes (declaredLength? r)) r =
      Serve.plan g choice readLimit r := Serve.plan_congr (limitOf_readLimit h)
  simp [limited, declared_passed h.declared, crossOrigin, h.method, hplan]

theorem values_addHeader {response : Http.Response} {name other value : String}
    (h : name ≠ other) :
    (response.addHeader name value).headers.values other = response.headers.values other := by
  simp [Http.Response.addHeader, Http.Headers.values, h]

theorem values_own {response : Http.Response} (h : response.IsOwn) :
    response.headers.values idHeader = [] := by
  have hid : idHeader ∉ Http.Response.ownHeaders := by decide
  simp only [Http.Headers.values, List.map_eq_nil_iff, List.filter_eq_nil_iff, beq_iff_eq]
  intro header hm hname
  exact hid (hname ▸ h header hm)

theorem values_addId (id : List UInt8) (response : Http.Response) :
    (addId id response).headers.values idHeader = response.headers.values idHeader ++ [id] := by
  simp [addId, Http.Headers.values]

theorem values_share (mode : CorsMode) (response : Http.Response) :
    (share mode response).headers.values idHeader = response.headers.values idHeader := by
  cases mode with
  | sameOrigin => rfl
  | permissive => rw [share, values_addHeader (by decide), values_addHeader (by decide)]

theorem limited_values (g : Gateway) (choice : Nat) (r : Http.Request) (b : Backend) :
    ((limited g choice r).1.run b).headers.values idHeader = [] := by
  unfold limited
  simp only
  split
  · rfl
  · unfold crossOrigin
    split
    · cases CorsMode.ofText g.config.service.corsMode <;> rfl
    · rw [Plan.run_map, values_share]
      exact values_own (Serve.isOwn_plan g choice _ r b)

theorem values_addAllowed (r : Http.Request) (response : Http.Response) :
    (Serve.addAllowed r response).headers.values idHeader = response.headers.values idHeader := by
  unfold Serve.addAllowed
  split
  · split
    · rfl
    · exact values_addHeader (by decide)
  · rfl

theorem dropBody_headers (r : Http.Request) (response : Http.Response) :
    (Serve.dropBody r response).headers = response.headers := by
  unfold Serve.dropBody
  split <;> rfl

end Pipeline

namespace Gateway

theorem serveLayered_values (g : Gateway) (choice : Nat) (fresh : List UInt8) (r : Http.Request)
    (b : Backend) :
    ((g.serveLayered choice fresh r).1.run b).headers.values Pipeline.idHeader =
      [Pipeline.requestId fresh r] := by
  simp only [serveLayered, Serve.finish, Plan.run_map, Pipeline.dropBody_headers,
    Pipeline.values_addAllowed, Pipeline.values_addId, Pipeline.limited_values, List.nil_append]

/-- A request that is let in is answered as without the pipeline: by the same call, if any, with the
same status and body, and with the same clients kept. Every answer, also to a request that is not
let in, has one id, which is the caller's own where there is one. -/
theorem serveLayered_answers (g : Gateway) (choice : Nat) (fresh : List UInt8) (r : Http.Request) :
    (Pipeline.LetsIn g r →
      (g.serveLayered choice fresh r).1.SameAnswers (g.serve choice r).1 ∧
        (g.serveLayered choice fresh r).2 = (g.serve choice r).2) ∧
    ∀ b, ((g.serveLayered choice fresh r).1.run b).headers.values "x-request-id" =
      [(r.headers.first? "x-request-id").getD fresh] := by
  refine ⟨fun h => ?_, serveLayered_values g choice fresh r⟩
  rw [serveLayered, serve, Pipeline.limited_letsIn h]
  refine ⟨Serve.finish_sameAnswers r ?_, rfl⟩
  have hid := Plan.sameAnswers_map (f := Pipeline.addId (Pipeline.requestId fresh r))
    ((Serve.plan g choice readLimit r).1.map
      (Pipeline.share (.ofText g.config.service.corsMode))) (fun _ => rfl) (fun _ => rfl)
  exact hid.trans (Plan.sameAnswers_map _ (Pipeline.share_status _) (Pipeline.share_body _))

def declaring (length body : String) : Http.Request :=
  { Http.Request.signed "POST" "/Shot" "" body with
    headers := [("authorization", Utf8.bytes "Basic YTpr"), ("content-length", Utf8.bytes length),
      ("x-request-id", Utf8.bytes "7")] }

theorem serveLayered_answers_declared :
    let r := declaring "2" "\x7b\x7d"
    Pipeline.LetsIn small r ∧ (small.serveLayered 0 [] r).1.SameAnswers (small.serve 0 r).1 ∧
      ∀ b, ((small.serveLayered 0 [] r).1.run b).headers.values "x-request-id" =
        [Utf8.bytes "7"] := by
  intro r
  have hdeclared : Pipeline.declaredLength? r = some 2 := by decide +kernel
  have hin : Pipeline.LetsIn small r := by
    refine ⟨by decide, by decide +kernel, ?_, ?_⟩
    · intro n hn
      obtain rfl := Option.some.inj (hdeclared.symm.trans hn)
      decide +kernel
    · intro _ n hn
      obtain rfl := Option.some.inj (hdeclared.symm.trans hn)
      decide +kernel
  obtain ⟨hsame, hid⟩ := serveLayered_answers small 0 [] r
  exact ⟨hin, (hsame hin).1, hid⟩

/-- A body of two bytes that is declared to have one is too long only behind the pipeline, which
reads no more than was declared. -/
theorem serveLayered_underdeclared :
    let r := declaring "1" "[]"
    r.method ≠ "OPTIONS" ∧ r.body.length ≤ small.config.bodyLimitBytes ∧
      Pipeline.declaredLength? r = some 1 ∧ 1 ≤ small.config.bodyLimitBytes ∧
      ∀ b, ((small.serveLayered 0 [] r).1.run b).status = 413 ∧
        ((small.serve 0 r).1.run b).status = 400 := by
  intro r
  have hdeclared : Pipeline.declaredLength? r = some 1 := by decide +kernel
  have hlow : 1 ≤ small.config.bodyLimitBytes := by decide
  have hr : Route.ofPath? r.target.path = some (.collection "Shot".toList) := rfl
  have hc : Authorization.parse (r.headers.values "authorization") = .ok (.script "a" "k") := rfl
  have hasks : Asks readLimit r (.collection "Shot".toList) (.create "Shot" r.body) :=
    .create rfl rfl (by decide)
  have hu : (serverUrl small.clients.host small.clients.apiPath).isOk = true := rfl
  obtain ⟨client, clients, hg⟩ := Cache.getOrConnect_ok hu 0 (.script "a" "k")
  refine ⟨by decide, by decide +kernel, hdeclared, hlow, fun b => ⟨?_, ?_⟩⟩
  · have hd : ∀ n, Pipeline.declaredLength? r = some n → n ≤ small.config.bodyLimitBytes := by
      intro n hn
      obtain rfl := Option.some.inj (hdeclared.symm.trans hn)
      exact hlow
    obtain ⟨response, ho, hs⟩ : ∃ response,
        Serve.operation { small with clients } 1 r client (.collection "Shot".toList) =
          .error response ∧ response.status = 413 := Serve.operation_overlong hasks rfl (by decide)
    have hlimit : Pipeline.limitOf small.config.bodyLimitBytes (some 1) = 1 := by decide
    rw [serveLayered_status, Pipeline.limited_passed hasks.method_ne hd, Plan.run_map,
      Pipeline.share_status, hdeclared, hlimit, Serve.plan_entities _ _ _ hr rfl,
      Serve.entityPlan_connected hc hg, ho]
    exact hs
  · have huntold : ¬ ∃ method payload,
        Tells small.formats (.create "Shot" r.body) method payload := by
      rintro ⟨method, payload, htells⟩
      cases htells with
      | create hbody => cases hbody
    obtain ⟨response, hp, hs⟩ := Task.plan_untold client huntold
    rw [serve_entities hr rfl, Serve.finish_status, Serve.entityPlan_asked hc hg hasks, hp]
    exact hs

end Gateway

end RestGateway

import RestGateway.Proofs.Gateway.Failures
import RestGateway.Proofs.Wire.RoundTrip

/-!
# Responses of errors

The response of an error is one document: its status stands on the response and in the body, and the
body is decoded as the error body that was written. What callers are told is the message that the
error carries or, where this is for the log only, nothing but the kind of the error.
-/

set_option autoImplicit false

namespace RestGateway.GatewayError
open Json Json.Reader

/-- The message that an error carries, for the errors whose message callers are told. -/
inductive Carries : GatewayError → String → Prop where
  | config (e : Config.Error) : Carries (.config e) e.message
  | registry (e : UnknownFormat) : Carries (.registry e) e.message
  | query (e : QueryError) : Carries (.query e) e.message
  | invalidHost (host : String) :
      Carries (.call (.invalidHost host)) (CallError.invalidHost host).message
  | forbidden (reason : String) : Carries (.forbidden reason) reason
  | notFound (reason : String) : Carries (.notFound reason) reason
  | badRequest (reason : String) : Carries (.badRequest reason) reason
  | conflict (reason : String) : Carries (.conflict reason) reason
  | exception (reason : String) : Carries (.exception reason) reason
  | badGateway (reason : String) : Carries (.badGateway reason) reason

/-- Two errors of one kind whose details are for the log only. -/
inductive Alike : GatewayError → GatewayError → Prop where
  | unauthorized (reason reason' : String) : Alike (.unauthorized reason) (.unauthorized reason')
  | internal (reason reason' : String) : Alike (.internal reason) (.internal reason')
  | io (reason reason' : String) : Alike (.io reason) (.io reason')
  | transport (reason reason' : String) :
      Alike (.call (.transport reason)) (.call (.transport reason'))
  | decode (diagnostic diagnostic' : String) :
      Alike (.call (.decode diagnostic)) (.call (.decode diagnostic'))
  | status (s s' : Http.Status) : Alike (.call (.status s)) (.call (.status s'))

variable {e e' : GatewayError} {text : String}

theorem Carries.told (h : e.Carries text) : e.told.2 = text := by
  cases h <;> rfl

theorem Alike.response_eq (h : e.Alike e') : e.response = e'.response := by
  cases h <;> rfl

theorem response_body (e : GatewayError) : e.response.body = e.body.toJson.text := by
  cases e <;> rfl

theorem challenged_iff :
    e.response.headers.values "www-authenticate" ≠ [] ↔ ∃ reason, e = .unauthorized reason := by
  cases e <;> simp [response, Http.Response.json, Http.Response.addHeader, Http.Response.empty,
    Http.Headers.values]

theorem status_lt (e : GatewayError) : e.status < UInt16.size := by
  unfold status
  split <;> decide

theorem body_toJson (e : GatewayError) : e.body.toJson = .object [("error", .string e.told.2),
    ("code", .string e.told.1), ("status", .number (.int e.status))] := rfl

theorem body_nesting (e : GatewayError) : e.body.toJson.nesting ≤ Decoder.levels := by
  rw [body_toJson]
  exact Nat.le_of_ble_eq_true rfl

theorem decode_body (e : GatewayError) :
    ErrorBody.decoder.decode (Utf8.bytes e.response.body) = .ok e.body := by
  have hproper : e.body.isProper = true := decide_eq_true e.status_lt
  rw [response_body]
  exact decode_reads (e.body.reads hproper e.body_nesting)

theorem decode_members (e : GatewayError) :
    ∃ ms, Decoder.value.decode (Utf8.bytes e.response.body) = .ok (.object ms) ∧
      ms.lookup "status" = some (.number (.int e.status)) := by
  have hfree : e.body.toJson.isFloatFree = true := rfl
  have hfits : e.body.toJson.fits = true := by
    have hnumber {n : Nat} (hn : n < UInt16.size) : (Number.int n).fits = true := by
      have hsize : UInt16.size = 65536 := rfl
      rw [Number.fits_int, Word.least, UInt64.size]
      omega
    have hstatus := hnumber e.status_lt
    rw [body_toJson, fits_object]
    simpa [fits] using hstatus
  have hread : Decoder.value.decode (Utf8.bytes e.body.toJson.text) = .ok e.body.toJson.asRead :=
    decode_reads (value_read _ _ hfree hfits e.body_nesting)
  rw [← response_body, body_toJson, asRead_object] at hread
  refine ⟨_, hread, ?_⟩
  rw [Members.lookup_ofPairs]
  rfl

/-- An error has one status, on the response, in its body and of its own; the body is decoded, and
its text is the message that the error carries. Callers without credentials, and only they, are
challenged. Of two errors alike whose details are for the log, nobody can tell one from the other. -/
theorem response_consistent (e : GatewayError) :
    e.response.status = e.status ∧
    (∃ ms, Decoder.value.decode (Utf8.bytes e.response.body) = .ok (.object ms) ∧
      ms.lookup "status" = some (.number (.int e.status))) ∧
    (∃ b, ErrorBody.decoder.decode (Utf8.bytes e.response.body) = .ok b ∧ b.status = e.status ∧
      ∀ text, e.Carries text → b.error = text) ∧
    (e.response.headers.values "www-authenticate" ≠ [] ↔ ∃ reason, e = .unauthorized reason) ∧
    ∀ e', e.Alike e' → e.response = e'.response :=
  ⟨e.response_status, e.decode_members, ⟨e.body, e.decode_body, rfl, fun _ h => h.told⟩,
    challenged_iff, fun _ h => h.response_eq⟩

theorem response_consistent_quoted :
    (∃ b, ErrorBody.decoder.decode
        (Utf8.bytes (exception "CRUD \"id\"\n#1").response.body) = .ok b ∧
      b.error = "CRUD \"id\"\n#1") ∧
    Alike (.call (.status 503)) (.call (.status 599)) ∧
    (call (.status 503)).response = (call (.status 599)).response := by
  obtain ⟨-, -, ⟨b, hb, -, htext⟩, -⟩ := response_consistent (exception "CRUD \"id\"\n#1")
  have halike : Alike (.call (.status 503)) (.call (.status 599)) := .status 503 599
  obtain ⟨-, -, -, -, hsame⟩ := response_consistent (call (.status 503))
  exact ⟨⟨b, hb, htext _ (.exception _)⟩, halike, hsame _ halike⟩

end RestGateway.GatewayError

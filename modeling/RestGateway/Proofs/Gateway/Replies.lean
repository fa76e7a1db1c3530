import RestGateway.Gateway.Plan
import RestGateway.Proofs.Attempts

/-!
# Replies of the backend

A reply is of use if it is no server error and carries an envelope. All others are answered alike,
so that nothing the backend wrote is passed on by them.
-/

set_option autoImplicit false

namespace RestGateway

/-- The envelope that a reply's body holds. -/
def Reply.Carries {α : Type} (results : Json.Decoder α) (reply : Reply) (e : Envelope α) : Prop :=
  ∃ bytes, reply.body = .ok bytes ∧ (Envelope.decoder results).decode bytes = .ok e

def Http.Response.badGateway : Http.Response :=
  .json 502 (.object [("error", .string "Bad response from backend"),
    ("code", .string "BAD_GATEWAY"), ("status", .number (.int 502))])

namespace Outcome

variable {α : Type} {results : Json.Decoder α} {reply : Reply}

theorem envelope_carried {e : Envelope α} (hs : reply.status.isServerError = false)
    (h : reply.Carries results e) : envelope results (.ok reply) = .ok e := by
  obtain ⟨bytes, hb, he⟩ := h
  simp [envelope, hs, hb, he]

theorem envelope_useless
    (h : reply.status.isServerError = true ∨ ¬ ∃ e, reply.Carries results e) :
    ∃ error, envelope results (.ok reply) = .error error ∧
      error.response = .badGateway := by
  cases hs : reply.status.isServerError with
  | true => exact ⟨.call (.status reply.status), by simp [envelope, hs], rfl⟩
  | false =>
    have hnone : ¬ ∃ e, reply.Carries results e := h.resolve_left (by simp [hs])
    cases hb : reply.body with
    | error reason => exact ⟨.call (.decode reason), by simp [envelope, hs, hb], rfl⟩
    | ok bytes =>
      cases hd : (Envelope.decoder results).decode bytes with
      | ok e => exact absurd ⟨e, bytes, hb, hd⟩ hnone
      | error d =>
        exact ⟨.call (.decode d), by simp [envelope, hs, hb, hd], rfl⟩

end Outcome

end RestGateway

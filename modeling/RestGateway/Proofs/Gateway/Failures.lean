import RestGateway.Error

/-!
# Error responses

An error's response has the error's status, and no error is reported with a status of success.
-/

set_option autoImplicit false

namespace RestGateway.GatewayError

@[simp] theorem response_status (e : GatewayError) : e.response.status = e.status := by
  cases e <;> rfl

theorem status_ge (e : GatewayError) : 400 ≤ e.status := by
  cases e with
  | call e => cases e <;> exact Nat.le_of_ble_eq_true rfl
  | _ => exact Nat.le_of_ble_eq_true rfl

end RestGateway.GatewayError

import RestGateway.Error

/-!
# Backend exceptions

A classifier is an ordered table of needles and statuses: the first needle found in a message gives
the status. The error that is made of an exception has this status and tells the message as it is.
-/

set_option autoImplicit false

namespace RestGateway

theorem occurs_iff {needle cs : List Char} : occurs needle cs = true ↔ needle <:+: cs := by
  induction cs with
  | nil => simp [occurs]
  | cons c cs ih =>
    rw [occurs, Bool.or_eq_true, List.isPrefixOf_iff_prefix, ih, List.infix_cons_iff]

/-- The status beside the first needle that a message holds in one piece; 400 if it holds none. -/
inductive FirstMatch (message : String) : List (String × Http.Status) → Http.Status → Prop where
  | none : FirstMatch message [] 400
  | here {needle : String} {status : Http.Status} {rest : List (String × Http.Status)}
      (h : needle.toList <:+: message.toList) : FirstMatch message ((needle, status) :: rest) status
  | later {needle : String} {status found : Http.Status} {rest : List (String × Http.Status)}
      (h : ¬ needle.toList <:+: message.toList) (hr : FirstMatch message rest found) :
      FirstMatch message ((needle, status) :: rest) found

theorem FirstMatch.status_ge {message : String} {table : List (String × Http.Status)}
    {status : Http.Status} (h : FirstMatch message table status) (ht : ∀ p ∈ table, 400 ≤ p.2) :
    400 ≤ status := by
  induction h with
  | none => exact Nat.le_refl 400
  | here => exact ht _ List.mem_cons_self
  | later h hr ih => exact ih fun p hp => ht p (List.mem_cons_of_mem _ hp)

namespace Classifier

def table (c : Classifier) : List (String × Http.Status) :=
  c.rules.map fun r => (r.needle, r.category.status)

theorem classifyMessage_firstMatch (c : Classifier) (message : String) :
    FirstMatch message c.table (c.classifyMessage message).status := by
  obtain ⟨rules⟩ := c
  induction rules with
  | nil => exact .none
  | cons r rules ih =>
    by_cases hr : r.matches message = true
    · have hfirst : (Classifier.mk (r :: rules)).classifyMessage message = r.category := by
        simp [classifyMessage, hr]
      rw [hfirst]
      exact .here (occurs_iff.mp hr)
    · have hskip : (Classifier.mk (r :: rules)).classifyMessage message =
          (Classifier.mk rules).classifyMessage message := by
        simp [classifyMessage, hr]
      rw [hskip]
      exact .later (fun h => hr (occurs_iff.mpr h)) ih

theorem classifyMessage_ne_success {c : Classifier} (h : ∀ r ∈ c.rules, r.category ≠ .success)
    (message : String) : c.classifyMessage message ≠ .success := by
  unfold classifyMessage
  split
  · next r hr => exact h r (List.mem_of_find?_eq_some hr)
  · nofun

end Classifier

theorem GatewayError.ofCategory_response {category : Category} (h : category ≠ .success)
    (reason : String) :
    ∃ e code, ofCategory category reason = some e ∧
      e.response = .json category.status (.object [("error", .string reason),
        ("code", .string code), ("status", .number (.int category.status))]) := by
  cases category with
  | success => exact absurd rfl h
  | conflict | forbidden | notFound | badRequest => exact ⟨_, _, rfl, rfl⟩

end RestGateway

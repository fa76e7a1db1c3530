import RestGateway.Text.Scan

/-!
# What scanners give

What holds of everything that a scanner gives, whatever the text. A repetition gives what its rounds
give, and what holds of the state before a round may be shown to hold after it.
-/

set_option autoImplicit false

namespace RestGateway.Scan

variable {α β σ : Type}

/-- Everything that `r` gives satisfies `P`. -/
def Yields (r : Scan α) (P : α → Prop) : Prop :=
  ∀ cs a rest, r cs = some (a, rest) → P a

theorem yields_pure {P : α → Prop} {a : α} (h : P a) : Yields (pure a) P := by
  intro cs b rest hb
  cases hb
  exact h

theorem yields_refuse {P : α → Prop} : Yields refuse P := by
  intro cs a rest h
  cases h

theorem yields_any (r : Scan α) : Yields r fun _ => True := fun _ _ _ _ => trivial

theorem yields_bind {x : Scan α} {f : α → Scan β} {P : α → Prop} {Q : β → Prop}
    (hx : Yields x P) (hf : ∀ a, P a → Yields (f a) Q) : Yields (x >>= f) Q := by
  intro cs b rest h
  obtain ⟨⟨a, mid⟩, ha, h⟩ := Option.bind_eq_some_iff.mp h
  exact hf a (hx cs a mid ha) mid b rest h

theorem yields_then {x : Scan α} {f : α → Scan β} {Q : β → Prop} (hf : ∀ a, Yields (f a) Q) :
    Yields (x >>= f) Q :=
  yields_bind (yields_any x) fun a _ => hf a

theorem yields_map {r : Scan α} {P : α → Prop} {Q : β → Prop} {f : α → β} (h : Yields r P)
    (hf : ∀ a, P a → Q (f a)) : Yields (f <$> r) Q := by
  rw [map_eq_pure_bind]
  exact yields_bind h fun a ha => yields_pure (hf a ha)

def Leaves (I : σ → Prop) (P : β → Prop) : σ ⊕ β → Prop
  | .inl s => I s
  | .inr b => P b

theorem yields_loop {I : σ → Prop} {P : β → Prop} {step : σ → Scan (σ ⊕ β)}
    (h : ∀ s, I s → Yields (step s) (Leaves I P)) (guide : List Char) {s : σ} (hs : I s) :
    Yields (loop step guide s) P := by
  induction guide generalizing s with
  | nil => exact yields_refuse
  | cons c guide ih =>
    intro cs b rest hb
    simp only [loop] at hb
    split at hb
    · cases hb
    · next next mid hstep => exact ih (h s hs cs _ mid hstep) mid b rest hb
    · next result mid hstep =>
      cases hb
      exact h s hs cs _ _ hstep

theorem yields_repeatedly {I : σ → Prop} {P : β → Prop} {step : σ → Scan (σ ⊕ β)} {s : σ}
    (h : ∀ s, I s → Yields (step s) (Leaves I P)) (hs : I s) : Yields (repeatedly step s) P :=
  fun cs b rest hb => yields_loop h (' ' :: cs) hs cs b rest hb

theorem yields_whole {r : Scan α} {P : α → Prop} (h : Yields r P) {text : List Char} {a : α}
    (ha : r.whole text = some a) : P a := by
  unfold whole at ha
  split at ha
  · next hr =>
    cases ha
    exact h text a [] hr
  · cases ha

end RestGateway.Scan

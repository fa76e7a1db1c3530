import Mathlib.Data.List.TakeWhile
import Mathlib.Tactic.Common
import RestGateway.Json.ValueReader

/-!
# Readers run on a given input

Readers are opened here and nowhere else: one lemma for each way to combine them, what blanks mean
to them, and how many bytes they take. A repetition whose rounds all take a byte never runs out of
rounds, so it is its first round followed by itself.
-/

set_option autoImplicit false

namespace RestGateway.Json.Reader

variable {α β σ : Type}

theorem pure_apply (a : α) (bs : List UInt8) : (pure a : Reader α) bs = .ok (a, bs) := rfl

theorem bind_ok {x : Reader α} (f : α → Reader β) {bs rest : List UInt8} {a : α}
    (h : x bs = .ok (a, rest)) : (x >>= f) bs = f a rest := by
  change Except.bind (x bs) _ = _
  rw [h]
  rfl

theorem bind_error {x : Reader α} (f : α → Reader β) {bs : List UInt8} {e : Fault}
    (h : x bs = .error e) : (x >>= f) bs = .error e := by
  change Except.bind (x bs) _ = _
  rw [h]
  rfl

theorem bind_eq_ok {x : Reader α} {f : α → Reader β} {bs : List UInt8} {r : β × List UInt8} :
    (x >>= f) bs = .ok r ↔ ∃ a rest, x bs = .ok (a, rest) ∧ f a rest = .ok r := by
  constructor
  · intro h
    cases hx : x bs with
    | error e => simp [bind_error f hx] at h
    | ok p => exact ⟨p.1, p.2, rfl, by rwa [bind_ok f hx] at h⟩
  · rintro ⟨a, rest, hx, hf⟩
    rwa [bind_ok f hx]

abbrev Blanks (w : List UInt8) : Prop := ∀ b ∈ w, isBlank b = true

theorem blank_nil : Blanks [] := List.forall_mem_nil _

theorem first_blank (w bs : List UInt8) (hw : Blanks w) :
    first (w ++ bs) = first bs := by
  simp only [first]
  rw [List.dropWhile_append_of_pos hw]

theorem first_cons (b : UInt8) (bs : List UInt8) (hb : isBlank b = false) :
    first (b :: bs) = .ok (some b, b :: bs) := by
  simp [first, hb]

theorem bind_blank {x : Reader α} (f : α → Reader β) (w bs : List UInt8)
    (h : x (w ++ bs) = x bs) : (x >>= f) (w ++ bs) = (x >>= f) bs := by
  change Except.bind (x (w ++ bs)) _ = Except.bind (x bs) _
  rw [h]

theorem begin_blank (w bs : List UInt8) (hw : Blanks w) :
    begin (w ++ bs) = begin bs :=
  bind_blank _ w bs (first_blank w bs hw)

theorem begin_cons (b : UInt8) (bs : List UInt8) (hb : isBlank b = false) :
    begin (b :: bs) = .ok (b, b :: bs) := by
  rw [begin, bind_ok _ (first_cons b bs hb)]
  rfl

theorem digit_ne {b c : UInt8} (h : isDigit b = true) (hc : isDigit c = false) : b ≠ c := by
  rintro rfl
  rw [h] at hc
  cases hc

theorem digit_blank {b : UInt8} (h : isDigit b = true) : isBlank b = false := by
  have hne (c : UInt8) (hc : isDigit c = false) : b ≠ c := digit_ne h hc
  simp [isBlank, hne 0x20 rfl, hne 0x0A rfl, hne 0x0D rfl, hne 0x09 rfl]

/-- A reader that takes `n` bytes at least whenever it succeeds. -/
def Takes (n : Nat) (r : Reader α) : Prop :=
  ∀ bs a rest, r bs = .ok (a, rest) → rest.length + n ≤ bs.length

theorem takes_pure (a : α) : Takes 0 (pure a : Reader α) := by
  intro bs b rest h
  cases h
  exact Nat.le_refl _

theorem takes_fail (n : Nat) (c : Cause) : Takes n (fail c : Reader α) := by
  intro bs a rest h
  cases h

theorem takes_failAhead (n : Nat) (c : Cause) : Takes n (failAhead c : Reader α) := by
  intro bs a rest h
  cases h

theorem takes_bind {m n : Nat} {x : Reader α} {f : α → Reader β} (hx : Takes m x)
    (hf : ∀ a, Takes n (f a)) : Takes (m + n) (x >>= f) := by
  intro bs b rest h
  obtain ⟨a, mid, h1, h2⟩ := bind_eq_ok.mp h
  have := hx bs a mid h1
  have := hf a mid b rest h2
  omega

theorem takes_then {n : Nat} {x : Reader α} {f : α → Reader β} (hx : Takes 0 x)
    (hf : ∀ a, Takes n (f a)) : Takes n (x >>= f) := by
  simpa using takes_bind hx hf

theorem takes_mono {m n : Nat} {r : Reader α} (hr : Takes n r) (h : m ≤ n) : Takes m r := by
  intro bs a rest hok
  have := hr bs a rest hok
  omega

theorem takes_first : Takes 0 first := by
  intro bs a rest h
  obtain ⟨-, rfl⟩ := Prod.mk.inj (Except.ok.inj h)
  exact (List.dropWhile_sublist _).length_le

theorem takes_begin : Takes 0 begin := by
  refine takes_then takes_first fun o => ?_
  cases o with
  | none => exact takes_failAhead 0 _
  | some b => exact takes_pure b

theorem takes_drop : Takes 0 drop := by
  intro bs a rest h
  cases h
  simp

theorem drop_cons (b : UInt8) (bs : List UInt8) : drop (b :: bs) = .ok ((), bs) := rfl

theorem takes_keyword (ks : List UInt8) : Takes ks.length (keyword ks) := by
  induction ks with
  | nil => exact takes_pure ()
  | cons k ks ih =>
    intro bs a rest h
    cases bs with
    | nil => cases h
    | cons b bs =>
      simp only [keyword] at h
      split at h
      · have := ih bs a rest h
        simp only [List.length_cons]
        omega
      · cases h

theorem keyword_append (ks bs : List UInt8) : keyword ks (ks ++ bs) = .ok ((), bs) := by
  induction ks with
  | nil => rfl
  | cons k ks ih => simpa [keyword] using ih

/-- Each round that goes on takes a byte at least. -/
def Advances (step : σ → Reader (σ ⊕ β)) : Prop :=
  ∀ s bs next rest, step s bs = .ok (.inl next, rest) → rest.length < bs.length

theorem advances_of_takes {step : σ → Reader (σ ⊕ β)} (h : ∀ s, Takes 1 (step s)) :
    Advances step := by
  intro s bs next rest hs
  have := h s bs _ rest hs
  omega

theorem advances_of_cut {step : σ → Reader (σ ⊕ β)}
    (h : ∀ s bs next rest, step s bs = .ok (.inl next, rest) → ∃ p, bs = p ++ rest ∧ p ≠ []) :
    Advances step := by
  intro s bs next rest hs
  obtain ⟨p, rfl, hp⟩ := h s bs next rest hs
  have := List.length_pos_iff.mpr hp
  rw [List.length_append]
  omega

/-- The number of rounds allowed does not matter once it exceeds the number of bytes. -/
theorem loop_enough {step : σ → Reader (σ ⊕ β)} (ha : Advances step) (g g' : List UInt8) (s : σ)
    (bs : List UInt8) (hg : bs.length < g.length) (hg' : bs.length < g'.length) :
    loop step g s bs = loop step g' s bs := by
  induction g generalizing g' s bs with
  | nil => simp at hg
  | cons b g ih =>
    cases g' with
    | nil => simp at hg'
    | cons b' g' =>
      simp only [loop]
      cases hs : step s bs with
      | error e => rfl
      | ok p =>
        obtain ⟨r, rest⟩ := p
        cases r with
        | inr result => rfl
        | inl next =>
          have hlt := ha s bs next rest hs
          simp only [List.length_cons] at hg hg'
          exact ih g' next rest (by omega) (by omega)

theorem repeatedly_go {step : σ → Reader (σ ⊕ β)} (ha : Advances step) {s next : σ}
    {bs rest : List UInt8} (h : step s bs = .ok (.inl next, rest)) :
    repeatedly step s bs = repeatedly step next rest := by
  have hlt := ha s bs next rest h
  have hl : repeatedly step s bs = loop step bs next rest := by simp only [repeatedly, loop, h]
  rw [hl]
  exact loop_enough ha _ _ next rest hlt (by simp)

theorem repeatedly_done {step : σ → Reader (σ ⊕ β)} {s : σ} {result : β} {bs rest : List UInt8}
    (h : step s bs = .ok (.inr result, rest)) : repeatedly step s bs = .ok (result, rest) := by
  simp only [repeatedly, loop, h]

theorem repeatedly_error {step : σ → Reader (σ ⊕ β)} {s : σ} {bs : List UInt8} {e : Fault}
    (h : step s bs = .error e) : repeatedly step s bs = .error e := by
  simp only [repeatedly, loop, h]

def After (P : σ → List UInt8 → β → List UInt8 → Prop) :
    σ ⊕ β → List UInt8 → β → List UInt8 → Prop
  | .inl next, left, b, rest => P next left b rest
  | .inr result, left, b, rest => b = result ∧ rest = left

theorem loop_induct {step : σ → Reader (σ ⊕ β)} {P : σ → List UInt8 → β → List UInt8 → Prop}
    (hstep : ∀ s bs r left b rest,
      step s bs = .ok (r, left) → After P r left b rest → P s bs b rest)
    {g : List UInt8} {s : σ} {bs rest : List UInt8} {b : β}
    (h : loop step g s bs = .ok (b, rest)) : P s bs b rest := by
  induction g generalizing s bs with
  | nil => cases h
  | cons _ g ih =>
    simp only [loop] at h
    cases hs : step s bs with
    | error e => simp [hs] at h
    | ok p =>
      obtain ⟨r, left⟩ := p
      rw [hs] at h
      apply hstep s bs r left b rest hs
      cases r with
      | inl next => exact ih h
      | inr result =>
        cases h
        exact ⟨rfl, rfl⟩

theorem takes_loop {step : σ → Reader (σ ⊕ β)} (h : ∀ s, Takes 1 (step s)) (g : List UInt8)
    (s : σ) : Takes 1 (loop step g s) := by
  intro bs b rest hok
  apply loop_induct (P := fun _ bs _ rest => rest.length + 1 ≤ bs.length) ?_ hok
  intro s bs r left b rest hs hafter
  have hleft := h s bs r left hs
  cases r with
  | inl next =>
    have hrest : rest.length + 1 ≤ left.length := hafter
    omega
  | inr result =>
    obtain ⟨-, rfl⟩ := hafter
    exact hleft

theorem takes_repeatedly {step : σ → Reader (σ ⊕ β)} (h : ∀ s, Takes 1 (step s)) (s : σ) :
    Takes 1 (repeatedly step s) := fun bs => takes_loop h (0 :: bs) s bs

theorem whole_ok {r : Reader α} {input : List UInt8} {a : α} :
    whole r input = .ok a ↔ ∃ w, r input = .ok (a, w) ∧ Blanks w := by
  unfold whole
  cases hr : r input with
  | error e => simp
  | ok p =>
    obtain ⟨b, w⟩ := p
    have hw : w.dropWhile isBlank = [] ↔ Blanks w := List.dropWhile_eq_nil_iff
    cases hd : w.dropWhile isBlank with
    | nil =>
      have hb : Blanks w := hw.mp hd
      simpa [hd] using fun _ => hb
    | cons c more =>
      have hn : ¬ Blanks w := fun hb => by simp [hw.mpr hb] at hd
      simpa [hd] using fun _ => hn

end RestGateway.Json.Reader

import Mathlib.Data.List.Induction
import RestGateway.Filter.Registry

/-!
# The life of a registry and its clones

Formats are registered, lists of names activated and cleared, and registries cloned, in any order.
A name becomes active only where it is registered and is never taken off again, so every active name
has a format: the one registered last under it. No format is skipped when an input is dispatched.
-/

set_option autoImplicit false

namespace RestGateway.Registry

theorem find_register_self (r : Registry) (name : String) (f : Format) :
    (r.register name f).find? name = some f := by
  simp [register, find?]

theorem find_register_of_ne (r : Registry) {name other : String} (f : Format)
    (h : other ≠ name) : (r.register name f).find? other = r.find? other := by
  have hb : (other == name) = false := beq_false_of_ne h
  simp only [register, find?, List.lookup_cons, hb]
  induction r.formats with
  | nil => rfl
  | cons e formats ih =>
    obtain ⟨k, g⟩ := e
    by_cases hk : k = name
    · simp [hk, List.lookup_cons, hb, ih]
    · simp [hk, List.lookup_cons, ih]

theorem isRegistered_register (r : Registry) (name other : String) (f : Format)
    (h : r.isRegistered other = true) : (r.register name f).isRegistered other = true := by
  by_cases ho : other = name
  · subst ho
    rw [isRegistered, find_register_self]
    rfl
  · rw [isRegistered, find_register_of_ne r f ho]
    exact h

theorem activate_registered (r : Registry) (names : List String)
    (h : ∀ n ∈ names, r.isRegistered n = true) :
    r.activate names = .ok { r with active := names } := by
  have hf : names.find? (fun n => !r.isRegistered n) = none := by
    rw [List.find?_eq_none]
    intro n hn
    simp [h n hn]
  rw [activate, hf]

theorem activate_unknown (r : Registry) (known rest : List String) (unknown : String)
    (hk : ∀ n ∈ known, r.isRegistered n = true) (hu : r.isRegistered unknown = false) :
    r.activate (known ++ unknown :: rest) = .error ⟨unknown⟩ := by
  have hf : (known ++ unknown :: rest).find? (fun n => !r.isRegistered n) = some unknown := by
    rw [List.find?_append, List.find?_eq_none.mpr fun n hn => by simp [hk n hn]]
    simp [hu]
  rw [activate, hf]

theorem activate_ok {r next : Registry} {names : List String} (h : r.activate names = .ok next) :
    (∀ n ∈ names, r.isRegistered n = true) ∧ next = { r with active := names } := by
  unfold activate at h
  cases hf : names.find? fun n => !r.isRegistered n with
  | some unknown =>
    rw [hf] at h
    cases h
  | none =>
    rw [hf] at h
    cases h
    exact ⟨fun n hn => by simpa using List.find?_eq_none.mp hf n hn, rfl⟩

/-- The first active format that claims an input answers it, whatever the ones after it do. -/
theorem parse_first {r : Registry} {s : String} {before after : List (String × Format)}
    {e : String × Format} (ha : r.activeFormats = before ++ e :: after)
    (hb : ∀ d ∈ before, d.2.claims s = false) (he : e.2.claims s = true) :
    r.parse s = e.2.parse s := by
  have hf : (before ++ e :: after).find? (fun d => d.2.claims s) = some e := by
    rw [List.find?_append, List.find?_eq_none.mpr fun d hd => by simp [hb d hd]]
    simp [he]
  rw [parse, ha, hf]

theorem parse_unclaimed {r : Registry} {s : String}
    (h : ∀ d ∈ r.activeFormats, d.2.claims s = false) : r.parse s = .error .noFormat := by
  rw [parse, List.find?_eq_none.mpr fun d hd => by simp [h d hd]]

/-- What may happen to one registry. -/
inductive Step where
  | register (name : String) (f : Format)
  | activate (names : List String)
  | reset

def step (r : Registry) : Step → Registry
  | .register name f => r.register name f
  | .activate names =>
    match r.activate names with
    | .ok next => next
    | .error _ => r
  | .reset => r.reset

/-- The registry that has gone through these steps. -/
def replay (history : List Step) : Registry := history.foldl step empty

def builtinSteps : List Step :=
  [.register "format1" .call, .register "format2" .objectQuery, .register "format3" .nestedList]

theorem replay_append (history : List Step) (s : Step) :
    replay (history ++ [s]) = (replay history).step s := by
  rw [replay, List.foldl_append]
  rfl

/-- `f` is what was registered last under `name`. -/
def Latest (history : List Step) (name : String) (f : Format) : Prop :=
  ∃ before after, history = before ++ .register name f :: after ∧ ∀ g, .register name g ∉ after

theorem latest_append_self (history : List Step) (name : String) (f g : Format) :
    Latest (history ++ [.register name f]) name g ↔ g = f := by
  constructor
  · rintro ⟨before, after, h, hl⟩
    cases after using List.reverseRecOn with
    | nil =>
      obtain ⟨-, h⟩ := List.append_inj' h rfl
      cases h
      rfl
    | append_singleton after s =>
      rw [← List.cons_append, ← List.append_assoc] at h
      obtain ⟨-, h⟩ := List.append_inj' h rfl
      cases h
      exact absurd (by simp) (hl f)
  · rintro rfl
    exact ⟨history, [], rfl, by simp⟩

theorem latest_append_other (history : List Step) (name : String) (s : Step) (f : Format)
    (hs : ∀ g, s ≠ .register name g) :
    Latest (history ++ [s]) name f ↔ Latest history name f := by
  constructor
  · rintro ⟨before, after, h, hl⟩
    cases after using List.reverseRecOn with
    | nil =>
      obtain ⟨-, h⟩ := List.append_inj' h rfl
      cases h
      exact absurd rfl (hs f)
    | append_singleton after t =>
      rw [← List.cons_append, ← List.append_assoc] at h
      obtain ⟨rfl, h⟩ := List.append_inj' h rfl
      exact ⟨before, after, rfl, fun g hg => hl g (by simp [hg])⟩
  · rintro ⟨before, after, rfl, hl⟩
    refine ⟨before, after ++ [s], by simp, fun g hg => ?_⟩
    rcases List.mem_append.mp hg with hg | hg
    · exact hl g hg
    · exact hs g (List.mem_singleton.mp hg).symm

theorem find_step (r : Registry) (s : Step) (name : String) (hs : ∀ g, s ≠ .register name g) :
    (r.step s).find? name = r.find? name := by
  cases s with
  | register other f =>
    have hne : name ≠ other := by
      rintro rfl
      exact hs f rfl
    exact find_register_of_ne r f hne
  | activate names =>
    simp only [step]
    cases ha : r.activate names with
    | error e => rfl
    | ok next =>
      obtain ⟨-, rfl⟩ := activate_ok ha
      rfl
  | reset => rfl

/-- What is found under a name is what was registered last under it. -/
theorem find_replay (history : List Step) (name : String) (f : Format) :
    (replay history).find? name = some f ↔ Latest history name f := by
  induction history using List.reverseRecOn with
  | nil =>
    constructor
    · intro h
      cases h
    · rintro ⟨before, after, h, -⟩
      simp at h
  | append_singleton history s ih =>
    rw [replay_append]
    by_cases hs : ∃ g, s = .register name g
    · obtain ⟨g, rfl⟩ := hs
      rw [latest_append_self]
      simp only [step, find_register_self, Option.some.injEq, eq_comm]
    · have hs : ∀ g, s ≠ .register name g := fun g hg => hs ⟨g, hg⟩
      rw [find_step _ _ _ hs, latest_append_other _ _ _ _ hs, ih]

def Complete (r : Registry) : Prop := ∀ n ∈ r.active, r.isRegistered n = true

theorem step_complete {r : Registry} (s : Step) (h : r.Complete) : (r.step s).Complete := by
  cases s with
  | register name f =>
    intro n hn
    exact isRegistered_register r name n f (h n hn)
  | activate names =>
    simp only [step]
    cases ha : r.activate names with
    | error e => exact h
    | ok next =>
      obtain ⟨hn, rfl⟩ := activate_ok ha
      exact hn
  | reset => exact List.forall_mem_nil _

theorem replay_complete (history : List Step) : (replay history).Complete := by
  induction history using List.reverseRecOn with
  | nil => exact List.forall_mem_nil _
  | append_singleton history s ih =>
    rw [replay_append]
    exact step_complete s ih

theorem activeFormats_complete {r : Registry} (h : r.Complete) :
    List.Forall₂ (fun name e => e.1 = name ∧ r.find? name = some e.2) r.active r.activeFormats := by
  have hall (names : List String) (hn : ∀ n ∈ names, r.isRegistered n = true) :
      List.Forall₂ (fun name e => e.1 = name ∧ r.find? name = some e.2) names
        (names.filterMap fun n => (r.find? n).map fun f => (n, f)) := by
    induction names with
    | nil => exact .nil
    | cons n names ih =>
      obtain ⟨hn, hnames⟩ := List.forall_mem_cons.mp hn
      obtain ⟨f, hf⟩ := Option.isSome_iff_exists.mp hn
      simp only [List.filterMap_cons, hf, Option.map_some]
      exact .cons ⟨rfl, hf⟩ (ih hnames)
  exact hall r.active h

/-- What may happen to a registry and its clones, each called by its place in their order: one of
them goes through a step, or is cloned. -/
inductive Event where
  | change (place : Nat) (s : Step)
  | clone (place : Nat)

def happen {α : Type} (change : α → Step → α) (all : List α) : Event → List α
  | .change i s => all.modify i (change · s)
  | .clone i => all ++ all[i]?.toList

def reached {α : Type} (change : α → Step → α) (start : α) (events : List Event) : List α :=
  events.foldl (happen change) [start]

variable {α β : Type} {change : α → Step → α} {change' : β → Step → β}

theorem reached_append (start : α) (events : List Event) (e : Event) :
    reached change start (events ++ [e]) = happen change (reached change start events) e := by
  rw [reached, List.foldl_append]
  rfl

theorem happen_map (g : α → β) (h : ∀ a s, g (change a s) = change' (g a) s) (all : List α)
    (e : Event) : (happen change all e).map g = happen change' (all.map g) e := by
  cases e with
  | change i s =>
    apply List.ext_getElem?
    intro j
    by_cases hij : i = j
    · simp [happen, hij, h, Function.comp_def]
    · simp [happen, hij]
  | clone i => simp [happen, Option.toList_map]

theorem reached_map (g : α → β) (h : ∀ a s, g (change a s) = change' (g a) s) (start : α)
    (events : List Event) : (reached change start events).map g = reached change' (g start) events := by
  induction events using List.reverseRecOn with
  | nil => rfl
  | append_singleton events e ih => rw [reached_append, reached_append, happen_map g h, ih]

/-- The steps that each registry has gone through, those of what it was cloned from included. -/
def histories (past : List Step) (events : List Event) : List (List Step) :=
  reached (fun history s => history ++ [s]) past events

theorem reached_replay (past : List Step) (events : List Event) :
    reached step (replay past) events = (histories past events).map replay :=
  (reached_map replay replay_append past events).symm

theorem happen_other {all : List α} {i : Nat} {a : α} (h : all[i]? = some a) (e : Event)
    (he : ∀ s, e ≠ .change i s) : (happen change all e)[i]? = some a := by
  cases e with
  | change j s =>
    have hj : j ≠ i := by
      rintro rfl
      exact he s rfl
    simp [happen, hj, h]
  | clone j =>
    obtain ⟨hi, -⟩ := List.getElem?_eq_some_iff.mp h
    rw [happen, List.getElem?_append_left hi, h]

theorem reached_other {start a : α} {events : List Event} {i : Nat}
    (h : (reached change start events)[i]? = some a) (later : List Event)
    (hl : ∀ e ∈ later, ∀ s, e ≠ .change i s) :
    (reached change start (events ++ later))[i]? = some a := by
  induction later using List.reverseRecOn with
  | nil => rwa [List.append_nil]
  | append_singleton later e ih =>
    have hlater := ih fun e' he' => hl e' (List.mem_append_left _ he')
    rw [← List.append_assoc, reached_append]
    exact happen_other hlater e (hl e (by simp))

/-- What holds of a registry that has gone through `history`. -/
structure Lawful (history : List Step) (r : Registry) : Prop where
  found : ∀ name f, r.find? name = some f ↔ Latest history name f
  registered : ∀ n ∈ r.active, r.isRegistered n = true
  formats : List.Forall₂ (fun name e => e.1 = name ∧ Latest history name e.2) r.active
    r.activeFormats
  refused : ∀ known unknown rest, (∀ n ∈ known, r.isRegistered n = true) →
    r.isRegistered unknown = false →
      r.activate (known ++ unknown :: rest) = .error ⟨unknown⟩ ∧
        r.step (.activate (known ++ unknown :: rest)) = r
  activated : ∀ names, (∀ n ∈ names, r.isRegistered n = true) →
    r.activate names = .ok { r with active := names } ∧
      r.step (.activate names) = { r with active := names }
  register_active : ∀ name f, (r.step (.register name f)).active = r.active
  reset_formats : (r.step .reset).formats = r.formats ∧ (r.step .reset).active = []
  answered : ∀ s before e after, r.activeFormats = before ++ e :: after →
    (∀ d ∈ before, d.2.claims s = false) → e.2.claims s = true → r.parse s = e.2.parse s
  unanswered : ∀ s, (∀ e ∈ r.activeFormats, e.2.claims s = false) → r.parse s = .error .noFormat

theorem replay_lawful (history : List Step) : Lawful history (replay history) where
  found := find_replay history
  registered := replay_complete history
  formats := by
    have h := activeFormats_complete (replay_complete history)
    simpa only [find_replay] using h
  refused known unknown rest hk hu := by
    have ha := activate_unknown (replay history) known rest unknown hk hu
    exact ⟨ha, by rw [step, ha]⟩
  activated names hn := by
    have ha := activate_registered (replay history) names hn
    exact ⟨ha, by rw [step, ha]⟩
  register_active _ _ := rfl
  reset_formats := ⟨rfl, rfl⟩
  answered _ _ _ _ ha hb he := parse_first ha hb he
  unanswered _ h := parse_unclaimed h

/-- How a registry begins, and by which steps it came to that. -/
inductive Begins : Registry → List Step → Prop where
  | empty : Begins empty []
  | builtin : Begins builtin builtinSteps

theorem begins_replay {start : Registry} {past : List Step} (h : Begins start past) :
    start = replay past := by
  cases h <;> rfl

/-- Whatever happens to a registry and its clones, each of them is lawful by the steps of its own
history, and stays as it is for as long as only other ones are changed. -/
theorem reached_lawful (start : Registry) (past : List Step) (hb : Begins start past)
    (events : List Event) (i : Nat) (r : Registry)
    (hr : (reached step start events)[i]? = some r) :
    (∃ history, (histories past events)[i]? = some history ∧ Lawful history r) ∧
      ∀ later, (∀ e ∈ later, ∀ s, e ≠ .change i s) →
        (reached step start (events ++ later))[i]? = some r := by
  constructor
  · rw [begins_replay hb, reached_replay, List.getElem?_map] at hr
    obtain ⟨history, hh, rfl⟩ := Option.map_eq_some_iff.mp hr
    exact ⟨history, hh, replay_lawful history⟩
  · intro later hl
    exact reached_other hr later hl

def never : Format := ⟨fun _ => false, fun _ => .error .invalidFormat⟩

def parting : List Event :=
  [.change 0 (.activate ["format3", "format1", "format3"]), .clone 0,
    .change 0 (.register "format3" never), .change 1 .reset, .change 0 (.activate ["format2", "x"])]

theorem reached_lawful_parting :
    let r : Registry := ⟨[("format3", never), ("format2", .objectQuery), ("format1", .call)],
      ["format3", "format1", "format3"]⟩
    Begins builtin builtinSteps ∧ (reached step builtin parting)[0]? = some r ∧
      Lawful (builtinSteps ++ [.activate ["format3", "format1", "format3"],
        .register "format3" never, .activate ["format2", "x"]]) r ∧
      (reached step builtin (parting ++ [.clone 0, .change 1 .reset]))[0]? = some r := by
  intro r
  have hr : (reached step builtin parting)[0]? = some r := rfl
  obtain ⟨⟨history, hh, hl⟩, hlater⟩ := reached_lawful builtin builtinSteps .builtin parting 0 r hr
  cases hh
  refine ⟨.builtin, hr, hl, hlater [.clone 0, .change 1 .reset] ?_⟩
  intro e he s
  rcases List.mem_cons.mp he with rfl | he
  · simp
  · obtain rfl := List.mem_singleton.mp he
    simp

end RestGateway.Registry

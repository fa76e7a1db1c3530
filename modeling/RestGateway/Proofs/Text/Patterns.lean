import Mathlib.Data.List.Basic
import Mathlib.Tactic.Common

/-!
# Patterns with groups

A pattern is tried at every place of a text, from left to right, and lists its matches there in the
order of preference: a repetition prefers more characters to fewer. The first match at the first
place that has one counts.
-/

set_option autoImplicit false

namespace RestGateway.Text

inductive Pattern where
  /-- The beginning of the whole text. -/
  | start
  /-- The end of the whole text. -/
  | finish
  | char (p : Char → Bool)
  /-- Characters with a property, `least` of them at least and as many as the rest allows. -/
  | run (p : Char → Bool) (least : Nat)
  | group (p : Pattern)
  | seq (p q : Pattern)

namespace Pattern

/-- What a pattern has taken, the texts of its groups in the order in which they begin, and the text
that is left. -/
structure Match where
  taken : List Char
  groups : List (List Char)
  rest : List Char

/-- The ways to cut a run off the front of a text, the longest one first. -/
def runs (p : Char → Bool) : List Char → List (List Char × List Char)
  | [] => [([], [])]
  | c :: cs =>
    if p c then (runs p cs).map (fun cut => (c :: cut.1, cut.2)) ++ [([], c :: cs)]
    else [([], c :: cs)]

def matchesAt : Pattern → Bool → List Char → List Match
  | start, first, cs => if first then [⟨[], [], cs⟩] else []
  | finish, _, cs => if cs.isEmpty then [⟨[], [], cs⟩] else []
  | char _, _, [] => []
  | char p, _, c :: cs => if p c then [⟨[c], [], cs⟩] else []
  | run p least, _, cs =>
    ((runs p cs).filter fun cut => least ≤ cut.1.length).map fun cut => ⟨cut.1, [], cut.2⟩
  | group p, first, cs =>
    (matchesAt p first cs).map fun m => { m with groups := m.taken :: m.groups }
  | seq p q, first, cs =>
    (matchesAt p first cs).flatMap fun m =>
      (matchesAt q (first && m.taken.isEmpty) m.rest).map fun n =>
        ⟨m.taken ++ n.taken, m.groups ++ n.groups, n.rest⟩

def search (p : Pattern) : Bool → List Char → Option Match
  | first, [] => (matchesAt p first []).head?
  | first, c :: cs => (matchesAt p first (c :: cs)).head?.or (search p false cs)

/-- The texts of the groups in the match that counts. -/
def captures (p : Pattern) (cs : List Char) : Option (List (List Char)) :=
  (p.search true cs).map Match.groups

variable {p q : Pattern} {set : Char → Bool} {first : Bool} {cs : List Char} {m : Match}

theorem mem_runs {cut : List Char × List Char} :
    cut ∈ runs set cs ↔ cs = cut.1 ++ cut.2 ∧ ∀ c ∈ cut.1, set c = true := by
  induction cs generalizing cut with
  | nil =>
    obtain ⟨a, b⟩ := cut
    simp only [runs, List.mem_singleton, Prod.mk.injEq]
    constructor
    · rintro ⟨rfl, rfl⟩
      simp
    · rintro ⟨h, -⟩
      exact List.append_eq_nil_iff.mp h.symm
  | cons c cs ih =>
    obtain ⟨a, b⟩ := cut
    cases a with
    | nil =>
      unfold runs
      split <;> simp <;> exact eq_comm
    | cons d a =>
      by_cases hc : set c = true
      · simp only [runs, if_pos hc, List.mem_append, List.mem_map, ih, List.mem_singleton,
          Prod.mk.injEq, reduceCtorEq, false_and, or_false, List.cons_append, List.cons.injEq,
          List.forall_mem_cons]
        constructor
        · rintro ⟨⟨x, y⟩, ⟨rfl, hx⟩, ⟨rfl, rfl⟩, rfl⟩
          exact ⟨⟨rfl, rfl⟩, hc, hx⟩
        · rintro ⟨⟨rfl, rfl⟩, -, ha⟩
          exact ⟨(a, b), ⟨rfl, ha⟩, ⟨rfl, rfl⟩, rfl⟩
      · simp only [runs, if_neg hc, List.mem_singleton, Prod.mk.injEq, reduceCtorEq, false_and,
          List.cons_append, List.cons.injEq, List.forall_mem_cons, false_iff]
        rintro ⟨⟨rfl, -⟩, hd, -⟩
        exact hc hd

theorem mem_start : m ∈ matchesAt start first cs ↔ first = true ∧ m = ⟨[], [], cs⟩ := by
  cases first <;> simp [matchesAt]

theorem mem_finish : m ∈ matchesAt finish first cs ↔ cs = [] ∧ m = ⟨[], [], []⟩ := by
  cases cs <;> simp [matchesAt]

theorem mem_char : m ∈ matchesAt (char set) first cs ↔
    ∃ c rest, cs = c :: rest ∧ set c = true ∧ m = ⟨[c], [], rest⟩ := by
  cases cs with
  | nil => simp [matchesAt]
  | cons c cs =>
    by_cases hc : set c = true
    · simp only [matchesAt, if_pos hc, List.mem_singleton, List.cons.injEq]
      constructor
      · rintro rfl
        exact ⟨c, cs, ⟨rfl, rfl⟩, hc, rfl⟩
      · rintro ⟨_, _, ⟨rfl, rfl⟩, -, rfl⟩
        rfl
    · simp only [matchesAt, if_neg hc, List.not_mem_nil, List.cons.injEq, false_iff]
      rintro ⟨_, _, ⟨rfl, rfl⟩, h, -⟩
      exact hc h

theorem mem_run {least : Nat} : m ∈ matchesAt (run set least) first cs ↔
    ∃ a rest, cs = a ++ rest ∧ (∀ c ∈ a, set c = true) ∧ least ≤ a.length ∧ m = ⟨a, [], rest⟩ := by
  simp only [matchesAt, List.mem_map, List.mem_filter, mem_runs, decide_eq_true_eq, Prod.exists]
  constructor
  · rintro ⟨a, rest, ⟨⟨hcs, ha⟩, hl⟩, rfl⟩
    exact ⟨a, rest, hcs, ha, hl, rfl⟩
  · rintro ⟨a, rest, hcs, ha, hl, rfl⟩
    exact ⟨a, rest, ⟨⟨hcs, ha⟩, hl⟩, rfl⟩

theorem mem_group : m ∈ matchesAt (group p) first cs ↔
    ∃ n ∈ matchesAt p first cs, m = { n with groups := n.taken :: n.groups } := by
  simp only [matchesAt, List.mem_map, eq_comm]

theorem mem_seq : m ∈ matchesAt (seq p q) first cs ↔
    ∃ a ∈ matchesAt p first cs, ∃ b ∈ matchesAt q (first && a.taken.isEmpty) a.rest,
      m = ⟨a.taken ++ b.taken, a.groups ++ b.groups, b.rest⟩ := by
  simp only [matchesAt, List.mem_flatMap, List.mem_map, eq_comm]

theorem start_later : matchesAt (start.seq q) false cs = [] := rfl

theorem search_start : (start.seq q).search true cs = ((start.seq q).matchesAt true cs).head? := by
  have hlater : ∀ cs, (start.seq q).search false cs = none := by
    intro cs
    induction cs with
    | nil => rfl
    | cons c cs ih => rw [search, start_later, ih]; rfl
  cases cs with
  | nil => rfl
  | cons c cs => rw [search, hlater, Option.or_none]

end Pattern

end RestGateway.Text

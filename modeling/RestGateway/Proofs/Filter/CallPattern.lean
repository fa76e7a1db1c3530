import RestGateway.Proofs.Filter.CallGrammar
import RestGateway.Proofs.Text.Patterns
import RestGateway.Proofs.Text.Split

/-!
# The pattern of calls

What the splitter finds, said without its way of finding it: as the groups of a pattern, and as the
one way to put a text together from a name and a body. A name holds no parenthesis, so the first
opening one ends it; the closing one is the last character, whatever stands between.
-/

set_option autoImplicit false

namespace RestGateway.Call

open Text (Pattern)

/-- From beginning to end: a group of word characters, one at least, and in parentheses a group of
any characters but line feeds. -/
def pattern : Pattern :=
  .seq .start <| .seq (.group (.run Text.isWord 1)) <| .seq (.char (· == '(')) <|
    .seq (.group (.run (· != '\n') 0)) <| .seq (.char (· == ')')) .finish

/-- `s` is the name `n` and, in parentheses, the body `b`. -/
structure Cut (s n b : List Char) : Prop where
  text : s = n ++ '(' :: (b ++ [')'])
  named : n ≠ []
  word : ∀ c ∈ n, Text.isWord c = true
  oneLine : '\n' ∉ b

variable {s n b : List Char}

theorem split_iff : split? s = some (n, b) ↔ Cut s n b := by
  constructor
  · intro h
    obtain ⟨hn, hw, hb, hs⟩ := cut_split s n b h
    exact ⟨hs, hn, hw, hb⟩
  · rintro ⟨rfl, hn, hw, hb⟩
    exact split_cut n b hn hw hb

theorem Cut.parts (h : Cut s n b) :
    n = s.takeWhile (· != '(') ∧ b = ((s.dropWhile (· != '(')).drop 1).dropLast ∧
      s.getLast? = some ')' := by
  have hn : ∀ c ∈ n, (c != '(') = true := by
    intro c hc
    rw [bne_iff_ne]
    rintro rfl
    exact absurd (h.word _ hc) (by simp [word_stop])
  rw [h.text, List.takeWhile_append_of_pos hn, List.dropWhile_append_of_pos hn]
  simp [List.getLast?_append, List.getLast?_cons]

/-- The pattern matches a text in the ways in which it can be cut, and takes all of it. -/
theorem mem_pattern {m : Pattern.Match} :
    m ∈ pattern.matchesAt true s ↔ ∃ n b, Cut s n b ∧ m = ⟨s, [n, b], []⟩ := by
  simp only [pattern, Pattern.mem_seq, Pattern.mem_start, Pattern.mem_group, Pattern.mem_run,
    Pattern.mem_char, Pattern.mem_finish]
  constructor
  · rintro ⟨_, ⟨-, rfl⟩, _, ⟨_, ⟨_, ⟨n, _, hs, hw, hn, rfl⟩, rfl⟩, _, ⟨_, ⟨c, _, hopen, hc, rfl⟩, _,
      ⟨_, ⟨_, ⟨b, _, hbody, hb, -, rfl⟩, rfl⟩, _, ⟨_, ⟨d, _, hclose, hd, rfl⟩, _, ⟨hend, rfl⟩, rfl⟩,
      rfl⟩, rfl⟩, rfl⟩, rfl⟩
    obtain rfl : c = '(' := by simpa using hc
    obtain rfl : d = ')' := by simpa using hd
    dsimp only at hs hopen hbody hclose hend
    subst hend hclose hbody hopen hs
    refine ⟨n, b, ⟨rfl, List.length_pos_iff.mp hn, hw, ?_⟩, by simp⟩
    intro hline
    simpa using hb _ hline
  · rintro ⟨n, b, ⟨rfl, hn, hw, hb⟩, rfl⟩
    have hline : ∀ c ∈ b, (c != '\n') = true := Text.bne_of_not_mem hb
    exact ⟨_, ⟨trivial, rfl⟩, _, ⟨_, ⟨_, ⟨n, _, rfl, hw, List.length_pos_iff.mpr hn, rfl⟩, rfl⟩, _,
      ⟨_, ⟨'(', _, rfl, rfl, rfl⟩, _, ⟨_, ⟨_, ⟨b, [')'], rfl, hline, Nat.zero_le _, rfl⟩, rfl⟩, _,
      ⟨_, ⟨')', [], rfl, rfl, rfl⟩, _, ⟨rfl, rfl⟩, rfl⟩, rfl⟩, rfl⟩, rfl⟩, by simp⟩

/-- There is one way to cut a text at most, so the pattern has no choice to make. -/
theorem pattern_captures (s : List Char) :
    pattern.captures s = (split? s).map fun parts => [parts.1, parts.2] := by
  rw [Pattern.captures, show pattern.search true s = (pattern.matchesAt true s).head? from
    Pattern.search_start]
  cases hm : pattern.matchesAt true s with
  | nil =>
    have hnone : split? s = none := by
      rw [Option.eq_none_iff_forall_ne_some]
      rintro ⟨n, b⟩ h
      have hmem := mem_pattern.mpr ⟨n, b, split_iff.mp h, rfl⟩
      rw [hm] at hmem
      cases hmem
    rw [hnone]
    rfl
  | cons m ms =>
    have hmem : m ∈ pattern.matchesAt true s := by
      rw [hm]
      exact List.mem_cons_self
    obtain ⟨n, b, hcut, rfl⟩ := mem_pattern.mp hmem
    rw [split_iff.mpr hcut]
    rfl

/-- The splitter finds the one decomposition of a text into a name and a body, which is what the
pattern captures, and nothing in a text that has none. -/
theorem split_decomposes (s : List Char) :
    (∀ n b, split? s = some (n, b) ↔ Cut s n b) ∧
    (∀ n b, Cut s n b → n = s.takeWhile (· != '(') ∧
      b = ((s.dropWhile (· != '(')).drop 1).dropLast ∧ s.getLast? = some ')') ∧
    (∀ n b n' b', Cut s n b → Cut s n' b' → n = n' ∧ b = b') ∧
    (split? s = none ↔ ¬ ∃ n b, Cut s n b) ∧
    pattern.captures s = (split? s).map fun parts => [parts.1, parts.2] := by
  refine ⟨fun n b => split_iff, fun n b h => h.parts, ?_, ?_, pattern_captures s⟩
  · intro n b n' b' h h'
    have hsame := (split_iff.mpr h).symm.trans (split_iff.mpr h')
    exact Prod.mk.inj (Option.some.inj hsame)
  · rw [Option.eq_none_iff_forall_ne_some, Prod.forall]
    simp only [ne_eq, split_iff, not_exists]

theorem split_decomposes_unbalanced :
    split? "or([\"(\"])(\u0300x))".toList = some ("or".toList, "[\"(\"])(\u0300x)".toList) := by
  obtain ⟨hsplit, -⟩ := split_decomposes "or([\"(\"])(\u0300x))".toList
  exact (hsplit _ _).mpr ⟨rfl, by decide, List.all_eq_true.mp (by decide +kernel), by decide⟩

end RestGateway.Call

import Mathlib.Data.List.Pairwise
import RestGateway.Proofs.Filter.Activation

/-!
# Which format answers

The order of the active formats matters only for inputs that two of them claim. The built-in formats
never do: a call begins with a letter, an object query with a brace and a nested list with two
brackets. So any two active lists of the same built-in names answer every input alike.
-/

set_option autoImplicit false

namespace RestGateway.Registry

theorem mem_activeFormats {r : Registry} {name : String} {f : Format} :
    (name, f) ∈ r.activeFormats ↔ name ∈ r.active ∧ r.find? name = some f := by
  simp [activeFormats, List.mem_filterMap]

theorem parse_claimed (r : Registry) (s name : String) (f : Format)
    (hm : (name, f) ∈ r.activeFormats) (hc : f.claims s = true)
    (hu : ∀ e ∈ r.activeFormats, e.2.claims s = true → e.2.parse s = f.parse s) :
    r.parse s = f.parse s := by
  unfold parse
  cases he : r.activeFormats.find? fun e => e.2.claims s with
  | none =>
    have hn := List.find?_eq_none.mp he (name, f) hm
    exact absurd hc hn
  | some e =>
    have hs := List.find?_some he
    exact hu e (List.mem_of_find?_eq_some he) hs

theorem parse_congr {r q : Registry} {s : String}
    (hm : ∀ e, e ∈ r.activeFormats ↔ e ∈ q.activeFormats)
    (hu : ∀ d ∈ r.activeFormats, ∀ e ∈ r.activeFormats, d.2.claims s = true →
      e.2.claims s = true → d = e) : q.parse s = r.parse s := by
  by_cases h : ∃ e ∈ r.activeFormats, e.2.claims s = true
  · obtain ⟨⟨name, f⟩, he, hs⟩ := h
    have hagree : ∀ d ∈ r.activeFormats, d.2.claims s = true → d.2.parse s = f.parse s := by
      intro d hd hc
      rw [hu d hd _ he hc hs]
    rw [parse_claimed r s name f he hs hagree]
    apply parse_claimed q s name f ((hm _).mp he) hs
    intro d hd
    exact hagree d ((hm d).mpr hd)
  · have hr : ∀ e ∈ r.activeFormats, e.2.claims s = false := by
      intro e he
      exact Bool.eq_false_iff.mpr fun hs => h ⟨e, he, hs⟩
    rw [parse_unclaimed hr, parse_unclaimed fun e he => hr e ((hm e).mpr he)]

def builtinActive (names : List String) : Registry := { builtin with active := names }

def builtinFormats : List (String × Format) :=
  [("format1", .call), ("format2", .objectQuery), ("format3", .nestedList)]

theorem find_builtin {name : String} {f : Format} :
    builtin.find? name = some f ↔ (name, f) ∈ builtinFormats := by
  constructor
  · intro h
    obtain ⟨before, after, he, -⟩ := List.lookup_eq_some_iff.mp h
    have hm : (name, f) ∈ builtin.formats := by simp [he]
    have hf : builtin.formats = builtinFormats.reverse := rfl
    simpa [hf] using hm
  · intro h
    simp only [builtinFormats, List.mem_cons, Prod.mk.injEq, List.not_mem_nil, or_false] at h
    rcases h with ⟨rfl, rfl⟩ | ⟨rfl, rfl⟩ | ⟨rfl, rfl⟩ <;> rfl

theorem activate_builtin (names : List String) (h : names.Perm builtinNames) :
    builtin.activate names = .ok (builtinActive names) := by
  apply activate_registered
  intro n hn
  have hm := h.mem_iff.mp hn
  simp only [builtinNames, List.mem_cons, List.not_mem_nil, or_false] at hm
  rcases hm with rfl | rfl | rfl <;> rfl

theorem call_opens (s : String) (h : Call.claims s = true) :
    s.toList.head? ≠ some '\x7b' ∧ s.toList.head? ≠ some '[' := by
  simp only [Call.claims, Bool.and_eq_true] at h
  have hk := h.1
  have hopen (c : Char) (cs : List Char) (hc : c.toLower ≠ 'a' ∧ c.toLower ≠ 'o') :
      Call.hasKeyword (c :: cs) = false := by
    have ha : ('a' == c.toLower) = false := beq_false_of_ne hc.1.symm
    have ho : ('o' == c.toLower) = false := beq_false_of_ne hc.2.symm
    simp [Call.hasKeyword, Ascii.lower, List.isPrefixOf, ha, ho]
  constructor
  · intro hs
    obtain ⟨cs, hs⟩ := List.head?_eq_some_iff.mp hs
    rw [hs, hopen '\x7b' cs (by decide)] at hk
    cases hk
  · intro hs
    obtain ⟨cs, hs⟩ := List.head?_eq_some_iff.mp hs
    rw [hs, hopen '[' cs (by decide)] at hk
    cases hk

theorem object_opens (s : String) (h : ObjectQuery.claims s = true) :
    s.toList.head? = some '\x7b' := by
  simp only [ObjectQuery.claims, ObjectQuery.begins, Bool.and_eq_true] at h
  exact eq_of_beq h.1

theorem nested_opens (s : String) (h : NestedList.claims s = true) :
    s.toList.head? = some '[' := by
  unfold NestedList.claims at h
  split at h
  · next hs => rw [hs]; rfl
  · cases h

theorem claims_disjoint (s : String) :
    builtinFormats.Pairwise fun d e => ¬(d.2.claims s = true ∧ e.2.claims s = true) := by
  have hc : Format.call.claims s = true → _ := call_opens s
  have ho : Format.objectQuery.claims s = true → _ := object_opens s
  have hn : Format.nestedList.claims s = true → _ := nested_opens s
  have hon : some '\x7b' ≠ some '[' := by decide
  simp only [builtinFormats, List.pairwise_cons, List.mem_cons, List.not_mem_nil, or_false,
    forall_eq_or_imp, forall_eq, false_implies, implies_true, List.Pairwise.nil, and_true]
  refine ⟨⟨?_, ?_⟩, ?_⟩
  · rintro ⟨hsc, hso⟩
    exact (hc hsc).1 (ho hso)
  · rintro ⟨hsc, hsn⟩
    exact (hc hsc).2 (hn hsn)
  · rintro ⟨hso, hsn⟩
    exact hon ((ho hso).symm.trans (hn hsn))

/-- The built-in formats claim no input in common. -/
theorem claims_unique (s : String) (d e : String × Format) (hd : d ∈ builtinFormats)
    (he : e ∈ builtinFormats) (hsd : d.2.claims s = true) (hse : e.2.claims s = true) : d = e := by
  by_contra hne
  have : Std.Symm fun d e : String × Format => ¬(d.2.claims s = true ∧ e.2.claims s = true) :=
    ⟨fun _ _ h hs => h hs.symm⟩
  exact (claims_disjoint s).forall hd he hne ⟨hsd, hse⟩

/-- Among the built-in formats, in any order, the one that claims an input answers it. -/
theorem parse_builtin (names : List String) (s name : String) (f : Format) (hn : name ∈ names)
    (hm : (name, f) ∈ builtinFormats) (hc : f.claims s = true) :
    (builtinActive names).parse s = f.parse s := by
  have ha : (name, f) ∈ (builtinActive names).activeFormats :=
    mem_activeFormats.mpr ⟨hn, find_builtin.mpr hm⟩
  apply parse_claimed _ s name f ha hc
  intro e he hs
  have hb : e ∈ builtinFormats := find_builtin.mp (mem_activeFormats.mp he).2
  rw [claims_unique s e (name, f) hb hm hs hc]

theorem parse_call (names : List String) (h : names.Perm builtinNames) (s : String)
    (hc : Call.claims s = true) : (builtinActive names).parse s = Call.parse s :=
  parse_builtin names s "format1" .call (h.mem_iff.mpr (by decide)) (by simp [builtinFormats]) hc

theorem parse_object (names : List String) (h : names.Perm builtinNames) (s : String)
    (hc : ObjectQuery.claims s = true) : (builtinActive names).parse s = ObjectQuery.parse s :=
  parse_builtin names s "format2" .objectQuery (h.mem_iff.mpr (by decide))
    (by simp [builtinFormats]) hc

theorem parse_nested (names : List String) (h : names.Perm builtinNames) (s : String)
    (hc : NestedList.claims s = true) : (builtinActive names).parse s = NestedList.parse s :=
  parse_builtin names s "format3" .nestedList (h.mem_iff.mpr (by decide))
    (by simp [builtinFormats]) hc

/-- No two built-in formats claim one input. So when the same names are activated, in whatever order
and however often each, every input gets the same answer, be it a filter or an error. -/
theorem parse_same_names (names names' : List String) (hn : ∀ n, n ∈ names ↔ n ∈ names')
    (r : Registry) (hr : builtin.activate names = .ok r) :
    (∀ s, ∀ d ∈ builtin.formats, ∀ e ∈ builtin.formats, d.2.claims s = true →
      e.2.claims s = true → d = e) ∧
      ∃ q, builtin.activate names' = .ok q ∧ ∀ s, q.parse s = r.parse s := by
  have hf : builtin.formats = builtinFormats.reverse := rfl
  obtain ⟨hall, rfl⟩ := activate_ok hr
  have hall' : ∀ n ∈ names', builtin.isRegistered n = true := fun n h => hall n ((hn n).mpr h)
  constructor
  · intro s d hd e he
    rw [hf, List.mem_reverse] at hd he
    exact claims_unique s d e hd he
  · refine ⟨builtinActive names', activate_registered builtin names' hall', fun s => ?_⟩
    apply parse_congr (r := builtinActive names)
    · rintro ⟨name, f⟩
      rw [mem_activeFormats, mem_activeFormats]
      exact and_congr_left' (hn name)
    · rintro ⟨name, f⟩ hd ⟨name', f'⟩ he
      have hd' := find_builtin.mp (mem_activeFormats.mp hd).2
      have he' := find_builtin.mp (mem_activeFormats.mp he).2
      exact claims_unique s _ _ hd' he'

theorem parse_same_names_repeated :
    (∀ n, n ∈ ["format3", "format1"] ↔ n ∈ ["format1", "format3", "format1"]) ∧
      ∃ r q, builtin.activate ["format3", "format1"] = .ok r ∧
        builtin.activate ["format1", "format3", "format1"] = .ok q ∧
        ∀ s, q.parse s = r.parse s := by
  have hn : ∀ n, n ∈ ["format3", "format1"] ↔ n ∈ ["format1", "format3", "format1"] := by
    intro n
    simp only [List.mem_cons, List.not_mem_nil, or_false]
    tauto
  obtain ⟨-, q, hq, hs⟩ := parse_same_names ["format3", "format1"] _ hn
    (builtinActive ["format3", "format1"]) rfl
  exact ⟨hn, _, q, rfl, hq, hs⟩

end RestGateway.Registry

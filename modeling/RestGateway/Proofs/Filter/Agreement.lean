import RestGateway.Filter.NestedList
import RestGateway.Proofs.Filter.ObjectText
import RestGateway.Proofs.Json.Phrases

/-!
# One list of triples, two formats

A nested list streams its text into triples, and an object query builds the value of the same text
one level further down before it takes it apart. On a well-formed list that leaves room for this
level they agree, however the list is spelled.
-/

set_option autoImplicit false

namespace RestGateway
open Json Json.Reader

theorem NestedList.parse_ok {t : String} {f : Filter} :
    NestedList.parse t = .ok f ↔ NestedList.claims t = true ∧
      ∃ ts w, value Decoder.levels (Utf8.bytes t) = .ok (Triple.listToJson ts, w) ∧ Blanks w ∧
        f = .ofTriples .and ts := by
  unfold NestedList.parse
  by_cases hc : NestedList.claims t = true
  · rw [if_pos hc]
    have hd (ts : List Triple) :
        (Decoder.list Triple.decoder).decode (Utf8.bytes t) = .ok ts ↔ _ := Triple.decode_triples
    cases hp : (Decoder.list Triple.decoder).decode (Utf8.bytes t) with
    | error e =>
      constructor
      · intro h
        cases h
      · rintro ⟨-, ts, w, hv, hw, -⟩
        have := (hd ts).mpr ⟨w, hv, hw⟩
        rw [hp] at this
        cases this
    | ok ts =>
      obtain ⟨w, hv, hw⟩ := (hd ts).mp hp
      constructor
      · intro h
        cases h
        exact ⟨hc, ts, w, hv, hw, rfl⟩
      · rintro ⟨-, ts', w', hv', hw', rfl⟩
        have := (hd ts').mpr ⟨w', hv', hw'⟩
        rw [hp] at this
        cases this
        rfl
  · rw [if_neg hc]
    simp [hc]

namespace ObjectQuery

/-- An object query under `and` accepts a well-formed list that opens at most 126 levels exactly
where the nested list does, with the same filter. -/
theorem parse_agrees (t : String) (cs : List Char) (hb : t.toList = '[' :: '[' :: cs)
    (ht : Grammar.Text 126 (Utf8.bytes t)) (f : Filter) :
    parse (written .and t) = .ok f ↔ NestedList.parse t = .ok f := by
  have hc : NestedList.claims t = true := by
    rw [NestedList.claims, hb]
    rfl
  obtain ⟨o, w, hw, ho⟩ := Grammar.text_settled ht
  have hbrace : Boundary [0x7D] := boundary_cons 0x7D [] (by decide) (by decide) (by decide)
  have hobject := ho 126 [0x7D] (Nat.le_refl _) hbrace
  have hnested := ho Decoder.levels [] (by decide) boundary_nil
  simp only [List.append_nil] at hnested
  rw [NestedList.parse_ok]
  cases o with
  | none =>
    have hv : ∀ v more, value 126 (Utf8.bytes t ++ [0x7D]) ≠ .ok (v, more) := by
      intro v more h
      cases ((hobject v more).mp h).1
    constructor
    · intro h
      exact absurd h (parse_refused hv)
    · rintro ⟨-, ts, w', h, -⟩
      cases ((hnested _ w').mp h).1
  | some v =>
    rw [parse_written ((hobject v _).mpr ⟨rfl, rfl⟩) hw]
    constructor
    · rintro ⟨ts, rfl, rfl⟩
      exact ⟨hc, ts, w, (hnested _ w).mpr ⟨rfl, rfl⟩, hw, rfl⟩
    · rintro ⟨-, ts, w', h, -, rfl⟩
      obtain ⟨hv, -⟩ := (hnested _ w').mp h
      exact ⟨ts, Option.some.inj hv, rfl⟩

def spelled : String := "[[\"\\u0061\", \"is\" ,-1.5e3]] "

theorem spelled_text : Grammar.Text 126 (Utf8.bytes spelled) := by
  have hw : Blanks [0x20] := List.all_eq_true.mp rfl
  have hp : Grammar.Phrase .value 124 [0x22, 0x5C, 0x75, 0x30, 0x30, 0x36, 0x31, 0x22] :=
    .string (.unicode (List.all_eq_true.mp rfl) .done)
  have hr : Grammar.Phrase .value 124 [0x22, 0x69, 0x73, 0x22] :=
    .string (.plain (by decide) (.plain (by decide) .done))
  have he : Grammar.Exponent [0x65, 0x33] :=
    @Grammar.Exponent.some 0x65 [] [0x33] (by decide) (by decide) (by decide)
  have hn : Grammar.Numeral [0x31, 0x2E, 0x35, 0x65, 0x33] :=
    @Grammar.Numeral.mk [0x31] _ (by decide) (@Grammar.Tail.point [0x35] _ (by decide) he)
  have hx : Grammar.Phrase .value 124 [0x2D, 0x31, 0x2E, 0x35, 0x65, 0x33] := .negative hn
  have hend : Grammar.Phrase (.items false) 124 [0x5D] := .listEnd blank_nil
  have h3 := Grammar.Phrase.item (.later hw blank_nil) hx hend
  have h2 := Grammar.Phrase.item (.later blank_nil hw) hr h3
  have h1 := Grammar.Phrase.item (.first blank_nil) hp h2
  have hl : Grammar.Phrase (.items false) 125 [0x5D] := .listEnd blank_nil
  have hlist := Grammar.Phrase.item (.first blank_nil) (.list h1) hl
  exact ⟨[], _, [0x20], rfl, blank_nil, .list hlist, hw⟩

theorem parse_agrees_spelled :
    parse (written .and spelled) = .ok (.ofTriples .and [⟨"a", "is", .number (.float (-1500))⟩]) ↔
      NestedList.parse spelled = .ok (.ofTriples .and [⟨"a", "is", .number (.float (-1500))⟩]) :=
  parse_agrees spelled _ rfl spelled_text _

end ObjectQuery

end RestGateway

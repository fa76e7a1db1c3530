import Mathlib.Tactic.Common
import Mathlib.Tactic.SplitIfs
import RestGateway.Proofs.Attempts
import RestGateway.Proofs.Filter.CallGrammar
import RestGateway.Proofs.Filter.Dispatch
import RestGateway.Proofs.Json.Equality

/-!
# Claiming and parsing fit together

A format decides twice what an input is: when it claims it and when it parses it. The two fit when
all that is parsed is claimed, and what is claimed fails for its content only. The built-in formats
fit, so a registry of them refuses an input for its shape in one case only: no active format claims
it.
-/

set_option autoImplicit false

namespace RestGateway

/-- The errors that lie in the content of a claimed input: a text that does not decode, and an
operator that there is not. -/
inductive QueryError.OfContent : QueryError → Prop where
  | decode (diagnostic : String) : OfContent (.decode diagnostic)
  | operator (text : String) : OfContent (.unsupportedOperator text)

structure Format.Fits (f : Format) : Prop where
  claimed : ∀ s g, f.parse s = .ok g → f.claims s = true
  content : ∀ s e, f.claims s = true → f.parse s = .error e → e.OfContent

theorem Operator.parse_error {s : String} {e : QueryError} (h : Operator.parse s = .error e) :
    e = .unsupportedOperator s := by
  unfold Operator.parse at h
  split_ifs at h
  cases h
  rfl

namespace Call

theorem startsWith_iff {c : Char} {s : List Char} : startsWith c s = true ↔ s.head? = some c := by
  cases s with
  | nil => simp [startsWith]
  | cons d s =>
    rw [startsWith, beq_iff_eq, List.head?_cons, Option.some.injEq]
    exact eq_comm

theorem claims_iff {s : String} : claims s = true ↔ hasKeyword s.toList = true ∧
    ∃ name body, split? s.toList = some (name, body) ∧ body.head? = some '[' := by
  rw [claims, Bool.and_eq_true]
  cases hc : split? s.toList with
  | none => simp
  | some p =>
    obtain ⟨name, body⟩ := p
    simp [startsWith_iff]

theorem decodeTriples_error {text : List Char} {e : QueryError}
    (h : decodeTriples text = .error e) : ∃ d, e = .decode d := by
  unfold decodeTriples at h
  cases hd : (Json.Decoder.list Triple.decoder).decode (Utf8.encode text) with
  | ok ts =>
    rw [hd] at h
    cases h
  | error d =>
    rw [hd] at h
    cases h
    exact ⟨d, rfl⟩

theorem parse_claimed {s : String} (h : claims s = true) : ∃ name body, parse s =
    decodeTriples (listText body) >>= fun ts =>
      Operator.parse (String.ofList name) >>= fun o => .ok (.ofTriples o ts) := by
  obtain ⟨hk, name, body, hc, hb⟩ := claims_iff.mp h
  refine ⟨name, body, ?_⟩
  simp only [parse, hk, hc, triplesText_bracket body hb, if_true]
  rfl

theorem parse_unclaimed {s : String} (h : claims s = false) :
    parse s = .error .invalidFormat ∨ parse s = .error .invalidBody := by
  by_cases hk : hasKeyword s.toList = true
  · cases hc : split? s.toList with
    | none => simp [parse, hk, hc]
    | some p =>
      obtain ⟨name, body⟩ := p
      cases ht : triplesText body with
      | ok text =>
        have hs := claims_iff.mpr ⟨hk, name, body, hc, triplesText_ok body text ht⟩
        rw [h] at hs
        cases hs
      | error e =>
        have he : e = .invalidBody := by
          unfold triplesText at ht
          split at ht <;> cases ht
          rfl
        simp [parse, hk, hc, ht, he]
  · simp [parse, hk]

theorem fits : Format.call.Fits where
  claimed s g h := by
    obtain ⟨o, body, hw⟩ := written_parse s g h
    exact written_claims s o body hw
  content s e hs he := by
    obtain ⟨name, body, hp⟩ := parse_claimed hs
    change parse s = .error e at he
    rw [hp] at he
    cases hd : decodeTriples (listText body) with
    | error e' =>
      rw [hd] at he
      cases he
      obtain ⟨d, rfl⟩ := decodeTriples_error hd
      exact .decode d
    | ok ts =>
      cases ho : Operator.parse (String.ofList name) with
      | ok o => simp [hd, ho] at he
      | error e' =>
        simp only [hd, ho] at he
        cases he
        obtain rfl := Operator.parse_error ho
        exact .operator _

theorem claims_eq_false {s : String} : claims s = false ↔
    parse s = .error .invalidFormat ∨ parse s = .error .invalidBody := by
  constructor
  · exact parse_unclaimed
  · intro h
    by_contra hs
    have hs : claims s = true := by simpa using hs
    rcases h with h | h <;> cases fits.content s _ hs h

end Call

namespace ObjectQuery

theorem claims_iff {s : String} : claims s = true ↔ begins s = true ∧ ∃ ms o c,
    decodeObject s = .ok ms ∧ ms.lookup operatorKey = some o ∧ ms.lookup conditionsKey = some c := by
  rw [claims, Bool.and_eq_true]
  cases hd : decodeObject s with
  | error d => simp
  | ok ms => simp [Option.isSome_iff_exists]

theorem parse_bound {s : String} {ms : Members} {o c : Json} (hb : begins s = true)
    (hd : decodeObject s = .ok ms) (ho : ms.lookup operatorKey = some o)
    (hc : ms.lookup conditionsKey = some c) : parse s =
      operatorOf o >>= fun op => ((Triple.listOfJson c).mapError fun c => .decode c.message) >>=
        fun ts => .ok (.ofTriples op ts) := by
  rw [parse, hb, hd, mapError_ok, ok_bind, ho, hc]
  rfl

theorem parse_ok {s : String} {f : Filter} (h : parse s = .ok f) : claims s = true := by
  by_cases hb : begins s = true
  · cases hd : decodeObject s with
    | error d => simp [parse, hb, hd] at h
    | ok ms =>
      cases ho : ms.lookup operatorKey with
      | none => simp [parse, hb, hd, ho] at h
      | some o =>
        cases hc : ms.lookup conditionsKey with
        | none => simp [parse, hb, hd, ho, hc] at h
        | some c => exact claims_iff.mpr ⟨hb, ms, o, c, hd, ho, hc⟩
  · simp [parse, hb] at h

theorem operatorOf_error {v : Json} {e : QueryError} (h : operatorOf v = .error e) :
    ∃ t, e = .unsupportedOperator t := by
  unfold operatorOf at h
  split at h
  · exact ⟨_, Operator.parse_error h⟩
  · cases h
    exact ⟨_, rfl⟩

theorem fits : Format.objectQuery.Fits where
  claimed _ _ := parse_ok
  content s e hs he := by
    obtain ⟨hb, ms, o, c, hd, ho, hc⟩ := claims_iff.mp hs
    change parse s = .error e at he
    rw [parse_bound hb hd ho hc] at he
    cases hop : operatorOf o with
    | error e' =>
      rw [hop] at he
      cases he
      obtain ⟨t, rfl⟩ := operatorOf_error hop
      exact .operator t
    | ok op =>
      cases ht : Triple.listOfJson c with
      | ok ts => simp [hop, ht] at he
      | error cause =>
        simp only [hop, ht] at he
        cases he
        exact .decode _

end ObjectQuery

namespace NestedList

theorem claims_eq_false {s : String} : claims s = false ↔ parse s = .error .invalidFormat := by
  unfold parse
  cases hs : claims s with
  | false => simp
  | true =>
    cases (Json.Decoder.list Triple.decoder).decode (Utf8.bytes s) <;> simp

theorem fits : Format.nestedList.Fits where
  claimed s g h := by
    change parse s = .ok g at h
    change claims s = true
    by_contra hs
    rw [claims_eq_false.mp (by simpa using hs)] at h
    cases h
  content s e hs he := by
    change claims s = true at hs
    change parse s = .error e at he
    rw [parse, if_pos hs] at he
    cases hd : (Json.Decoder.list Triple.decoder).decode (Utf8.bytes s) with
    | ok ts => simp [hd] at he
    | error d =>
      simp only [hd] at he
      cases he
      exact .decode d

end NestedList

namespace Registry

/-- Where every active format fits, an input that some format claims is refused for its content. -/
theorem parse_error {r : Registry} (h : ∀ e ∈ r.activeFormats, e.2.Fits) {s : String}
    {e : QueryError} (he : r.parse s = .error e) :
    (e = .noFormat ∧ ∀ d ∈ r.activeFormats, d.2.claims s = false) ∨ e.OfContent := by
  unfold parse at he
  cases hf : r.activeFormats.find? fun d => d.2.claims s with
  | none =>
    rw [hf] at he
    cases he
    exact Or.inl ⟨rfl, fun d hd => by simpa using List.find?_eq_none.mp hf d hd⟩
  | some d =>
    rw [hf] at he
    have hs : d.2.claims s = true := by simpa using List.find?_some hf
    exact Or.inr ((h d (List.mem_of_find?_eq_some hf)).content s e hs he)

theorem builtin_fits {e : String × Format} (he : e ∈ builtinFormats) : e.2.Fits := by
  simp only [builtinFormats, List.mem_cons, List.not_mem_nil, or_false] at he
  rcases he with rfl | rfl | rfl
  · exact Call.fits
  · exact ObjectQuery.fits
  · exact NestedList.fits

theorem mem_builtin {names : List String} {r : Registry} (hr : builtin.activate names = .ok r)
    {e : String × Format} (he : e ∈ r.activeFormats) : e.1 ∈ names ∧ e ∈ builtinFormats := by
  obtain ⟨-, rfl⟩ := activate_ok hr
  obtain ⟨hn, hf⟩ := mem_activeFormats.mp he
  exact ⟨hn, find_builtin.mp hf⟩

/-- Each built-in format claims what it parses and refuses what it claims for its content only, and
calls and nested lists refuse for their shape just what they do not claim. So whichever of them are
active, an input is refused because none of them claims it or for its content, and a filter that one
of them would give is the answer. -/
theorem activate_builtin_answers (names : List String) (r : Registry)
    (hr : builtin.activate names = .ok r) :
    (Format.call.Fits ∧ Format.objectQuery.Fits ∧ Format.nestedList.Fits) ∧
      (∀ s, Call.claims s = false ↔
        Call.parse s = .error .invalidFormat ∨ Call.parse s = .error .invalidBody) ∧
      (∀ s, NestedList.claims s = false ↔
        NestedList.parse s = .error .invalidFormat ∨ NestedList.parse s = .error .invalidBody) ∧
      ∀ s, (∀ e, r.parse s = .error e → e = .noFormat ∨ e.OfContent) ∧
        ∀ e ∈ r.activeFormats, ∀ g, e.2.parse s = .ok g → r.parse s = .ok g := by
  refine ⟨⟨Call.fits, ObjectQuery.fits, NestedList.fits⟩, fun s => Call.claims_eq_false,
    fun s => ?_, fun s => ⟨?_, ?_⟩⟩
  · constructor
    · intro h
      exact Or.inl (NestedList.claims_eq_false.mp h)
    · rintro (h | h)
      · exact NestedList.claims_eq_false.mpr h
      · by_contra hs
        have hs : NestedList.claims s = true := by simpa using hs
        cases NestedList.fits.content s _ hs h
  · intro e he
    have hfits : ∀ d ∈ r.activeFormats, d.2.Fits := fun d hd => builtin_fits (mem_builtin hr hd).2
    exact (parse_error hfits he).imp_left And.left
  · intro e he g hg
    obtain ⟨hn, hb⟩ := mem_builtin hr he
    obtain ⟨-, rfl⟩ := activate_ok hr
    have hc := (builtin_fits hb).claimed s g hg
    exact (parse_builtin names s e.1 e.2 hn hb hc).trans hg

theorem activate_builtin_answers_call : ∃ r, builtin.activate ["format3", "format1"] = .ok r ∧
    r.parse "or([\"a\",\"is\",null])" = .ok ⟨.or, [⟨"a", "is", [.null]⟩]⟩ := by
  have hr : builtin.activate ["format3", "format1"] = .ok (builtinActive ["format3", "format1"]) :=
    rfl
  obtain ⟨-, -, -, h⟩ := activate_builtin_answers _ _ hr
  have he : ("format1", Format.call) ∈ (builtinActive ["format3", "format1"]).activeFormats :=
    mem_activeFormats.mpr ⟨by decide, rfl⟩
  have hp : Call.parse "or([\"a\",\"is\",null])" = .ok ⟨.or, [⟨"a", "is", [.null]⟩]⟩ :=
    ok_of_toOption (by decide +kernel)
  exact ⟨_, hr, (h _).2 _ he _ hp⟩

end Registry

end RestGateway

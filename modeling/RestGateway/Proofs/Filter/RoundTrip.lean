import RestGateway.Proofs.Filter.CallGrammar
import RestGateway.Proofs.Filter.Dispatch
import RestGateway.Proofs.Filter.ObjectText

/-!
# Filters survive their texts

Every filter without floats is the answer to three texts: an object query, a call and, when it is
joined by `and`, the bare list of its triples. None of them is taken for a text of another format.
-/

set_option autoImplicit false

namespace RestGateway

namespace Filter
open Json

def triples (f : Filter) : List Triple :=
  f.conditions.map fun c => ⟨c.path, c.relation, .list c.values⟩

def triplesJson (f : Filter) : Json := Triple.listToJson f.triples

/-- A filter whose values are all given back by their texts. -/
def isExact (f : Filter) : Bool := f.conditions.all fun c => isExactItems c.values

theorem map_condition (cs : List Condition) :
    (cs.map fun c => (⟨c.path, c.relation, .list c.values⟩ : Triple)).map Triple.condition = cs := by
  rw [List.map_map]
  exact List.map_id cs

theorem ofTriples_triples (o : Operator) (f : Filter) :
    ofTriples o f.triples = ⟨o, f.conditions⟩ := by
  rw [ofTriples, triples, map_condition]

theorem triplesJson_exact (f : Filter) (hx : f.isExact = true) : f.triplesJson.isExact = true := by
  obtain ⟨o, cs⟩ := f
  simp only [isExact, triplesJson, triples, Triple.listToJson, Json.isExact] at hx ⊢
  induction cs with
  | nil => rfl
  | cons c cs ih =>
    simp only [List.all_cons, Bool.and_eq_true] at hx
    simp only [List.map_cons, isExactItems, Bool.and_eq_true]
    refine ⟨?_, ih hx.2⟩
    simp [Triple.toJson, Json.isExact, isExactItems, hx.1]

theorem triplesJson_brackets (f : Filter) (hc : f.conditions ≠ []) :
    ∃ cs, f.triplesJson.chars = '[' :: '[' :: cs := by
  obtain ⟨c, cs, hcs⟩ := List.exists_cons_of_ne_nil hc
  rw [triplesJson, triples, hcs, Triple.listToJson]
  simp only [List.map_cons, chars, charsOfItems_cons, Triple.toJson, List.cons_append]
  exact ⟨_, rfl⟩

variable {f : Filter}

theorem triples_read {depth : Nat} {s : List UInt8} (hx : f.isExact = true)
    (hd : f.triplesJson.nesting ≤ depth) (hs : Reader.Boundary s) :
    Reader.value depth (Utf8.encode f.triplesJson.chars ++ s) = .ok (f.triplesJson, s) :=
  Reader.value_written _ depth s (triplesJson_exact f hx) hd hs

theorem object_read (hx : f.isExact = true) (hd : f.triplesJson.nesting < Decoder.levels) :
    Reader.value 126 (Utf8.bytes f.triplesJson.text ++ [0x7D]) = .ok (f.triplesJson, [0x7D]) := by
  have hb : Reader.Boundary [0x7D] :=
    Reader.boundary_cons 0x7D [] (by decide) (by decide) (by decide)
  have ht : Utf8.bytes f.triplesJson.text = Utf8.encode f.triplesJson.chars := by
    rw [Json.text, Utf8.bytes, String.toList_ofList]
  rw [ht]
  exact triples_read hx (Nat.le_of_lt_succ hd) hb

theorem object_parsed (hx : f.isExact = true) (hd : f.triplesJson.nesting < Decoder.levels) :
    ObjectQuery.claims (ObjectQuery.written f.operator f.triplesJson.text) = true ∧
      ObjectQuery.parse (ObjectQuery.written f.operator f.triplesJson.text) = .ok f := by
  have hv := object_read hx hd
  refine ⟨ObjectQuery.claims_written (w := []) hv Reader.blank_nil, ?_⟩
  rw [ObjectQuery.parse_written (w := []) hv Reader.blank_nil]
  exact ⟨f.triples, rfl, (ofTriples_triples f.operator f).symm⟩

theorem triples_decoded (hx : f.isExact = true) (hd : f.triplesJson.nesting ≤ Decoder.levels) :
    (Decoder.list Triple.decoder).decode (Utf8.encode f.triplesJson.chars) = .ok f.triples := by
  have hv := triples_read hx hd Reader.boundary_nil
  rw [List.append_nil] at hv
  exact Triple.decode_triples.mpr ⟨[], hv, Reader.blank_nil⟩

theorem nested_parsed (hx : f.isExact = true) (hd : f.triplesJson.nesting ≤ Decoder.levels)
    (hc : f.conditions ≠ []) : NestedList.claims f.triplesJson.text = true ∧
      NestedList.parse f.triplesJson.text = .ok ⟨.and, f.conditions⟩ := by
  obtain ⟨cs, hcs⟩ := triplesJson_brackets f hc
  have hclaim : NestedList.claims f.triplesJson.text = true := by
    rw [NestedList.claims, Json.text, String.toList_ofList, hcs]
    rfl
  refine ⟨hclaim, ?_⟩
  rw [NestedList.parse, if_pos hclaim, Json.text, Utf8.bytes, String.toList_ofList,
    triples_decoded hx hd]
  rw [← ofTriples_triples]
  rfl

/-- A filter's call: the name of its operator and its triples in parentheses. -/
def callText (f : Filter) : String := f.operator.name ++ "(" ++ f.triplesJson.text ++ ")"

theorem call_written (hx : f.isExact = true) (hc : f.conditions ≠ []) :
    Call.Written f.callText f.operator f.triplesJson.chars := by
  obtain ⟨cs, hcs⟩ := triplesJson_brackets f hc
  refine ⟨⟨f.operator.name.toList, ?_, ?_⟩, ?_, chars_line _ (triplesJson_exact f hx)⟩
  · cases f.operator <;> decide
  · simp [callText, Json.text]
  · rw [hcs]
    rfl

theorem call_parsed (hx : f.isExact = true) (hd : f.triplesJson.nesting ≤ Decoder.levels)
    (hc : f.conditions ≠ []) :
    Call.claims f.callText = true ∧ Call.parse f.callText = .ok f := by
  have hw := call_written hx hc
  refine ⟨Call.written_claims _ _ _ hw, ?_⟩
  obtain ⟨cs, hcs⟩ := triplesJson_brackets f hc
  have hl : Call.listText f.triplesJson.chars = f.triplesJson.chars := by
    rw [hcs]
    rfl
  have hn := (nested_parsed hx hd hc).2
  rw [Json.text] at hn
  rw [Call.parse_written _ _ _ hw, hl, hn]
  rfl

/-- Whatever the order of the three built-in formats, a filter without floats is the answer to its
object query, to its call when it has a condition, and to the list of its triples when moreover it
is joined by `and`. -/
theorem parse_text (f : Filter) (names : List String) (hx : f.isExact = true)
    (hn : names.Perm Registry.builtinNames) :
    ∃ r, Registry.builtin.activate names = .ok r ∧
      (f.triplesJson.nesting + 1 ≤ Decoder.levels →
        r.parse (ObjectQuery.written f.operator f.triplesJson.text) = .ok f) ∧
      (f.triplesJson.nesting ≤ Decoder.levels → f.conditions ≠ [] →
        r.parse f.callText = .ok f ∧
          (f.operator = .and → r.parse f.triplesJson.text = .ok f)) := by
  refine ⟨_, Registry.activate_builtin names hn, ?_, ?_⟩
  · intro hd
    obtain ⟨hc, hp⟩ := object_parsed hx hd
    rw [Registry.parse_object names hn _ hc, hp]
  · intro hd hne
    obtain ⟨hc, hp⟩ := call_parsed hx hd hne
    obtain ⟨hc', hp'⟩ := nested_parsed hx hd hne
    constructor
    · rw [Registry.parse_call names hn _ hc, hp]
    · intro ho
      rw [Registry.parse_nested names hn _ hc', hp', ← ho]

def quoting : Filter :=
  ⟨.and, [⟨"or([[\"", "in", [.string "\x7b\n]\")", .number (.int (-9223372036854775808)),
    .list [.null, .list []], .object [("a", .bool true), ("b", .string "\\")]]⟩]⟩

theorem parse_text_quoting :
    ∃ r, Registry.builtin.activate ["format3", "format1", "format2"] = .ok r ∧
      r.parse (ObjectQuery.written .and quoting.triplesJson.text) = .ok quoting ∧
      r.parse quoting.callText = .ok quoting ∧ r.parse quoting.triplesJson.text = .ok quoting := by
  obtain ⟨r, ha, ho, hl⟩ := parse_text quoting ["format3", "format1", "format2"] (by decide)
    (by decide)
  obtain ⟨hc, hn⟩ := hl (by decide) (List.cons_ne_nil _ _)
  exact ⟨r, ha, ho (by decide), hc, hn rfl⟩

end Filter

end RestGateway

import RestGateway.Filter.ObjectQuery
import RestGateway.Proofs.Filter.Triples
import RestGateway.Proofs.Json.RoundTrip

/-!
# Object queries around a text of triples

An object query holds an operator and the text of its triples. What becomes of it depends on nothing
but the value that is read from this text, one level further down.
-/

set_option autoImplicit false

namespace RestGateway.ObjectQuery
open Json Json.Reader

/-- The object query of an operator and the text of its triples. -/
def written (o : Operator) (triples : String) : String :=
  "\x7b\"logical_operator\":" ++ o.toJson.text ++ ",\"conditions\":" ++ triples ++ "\x7d"

theorem toList_written (o : Operator) (t : String) :
    (written o t).toList = '\x7b' :: (quote operatorKey ++ ':' :: (o.toJson.chars ++
      ',' :: (quote conditionsKey ++ ':' :: (t.toList ++ ['\x7d'])))) := by
  have hop : "\x7b\"logical_operator\":".toList = '\x7b' :: (quote operatorKey ++ [':']) := by
    simp [quote, Json.escape, operatorKey]
  have hcond : ",\"conditions\":".toList = ',' :: (quote conditionsKey ++ [':']) := by
    simp [quote, Json.escape, conditionsKey]
  have hc : "\x7d".toList = ['\x7d'] := by simp
  have ho : o.toJson.text.toList = o.toJson.chars := String.toList_ofList
  unfold written
  rw [String.toList_append, String.toList_append, String.toList_append, String.toList_append,
    hop, hcond, hc, ho]
  simp only [List.cons_append, List.append_assoc, List.nil_append]

example : written .or "[]" = "\x7b\"logical_operator\":\"or\",\"conditions\":[]\x7d" := rfl

theorem begins_written (o : Operator) (t : String) : begins (written o t) = true := by
  rw [begins, toList_written]
  rfl

theorem bytes_written (o : Operator) (t : String) :
    Utf8.bytes (written o t) = 0x7B :: 0x22 :: (nameBytes operatorKey ++
      (Utf8.encode o.toJson.chars ++ 0x2C :: 0x22 :: (nameBytes conditionsKey ++
        (Utf8.bytes t ++ [0x7D])))) := by
  have ho : String.utf8EncodeChar '\x7b' = [0x7B] := rfl
  have hm : String.utf8EncodeChar ',' = [0x2C] := rfl
  have hc : String.utf8EncodeChar '\x7d' = [0x7D] := rfl
  have hn (k : String) (cs : List Char) := encode_name k cs []
  simp only [List.append_nil] at hn
  rw [Utf8.bytes, toList_written, Utf8.encode_cons, hn, Utf8.encode_append, Utf8.encode_cons, hn]
  simp [ho, hm, hc, Utf8.bytes]

theorem operator_read (o : Operator) (depth : Nat) (s : List UInt8) :
    value depth (Utf8.encode o.toJson.chars ++ s) = .ok (o.toJson, s) := by
  have h : o.toJson.chars = quote o.name := by simp only [Operator.toJson, chars]
  rw [h]
  exact value_string depth o.name s

theorem pairs_written {o : Operator} {t : String} {depth : Nat} {ps : List (String × Json)}
    {w : List UInt8} :
    Pairs (value depth) true (0x22 :: (nameBytes operatorKey ++ (Utf8.encode o.toJson.chars ++
      0x2C :: 0x22 :: (nameBytes conditionsKey ++ (Utf8.bytes t ++ [0x7D]))))) ps w ↔
    ∃ v more ps', value depth (Utf8.bytes t ++ [0x7D]) = .ok (v, more) ∧
      Pairs (value depth) false more ps' w ∧
        ps = (operatorKey, o.toJson) :: (conditionsKey, v) :: ps' := by
  constructor
  · intro h
    obtain ⟨k, a, more, ps', rfl, hk, h⟩ := (pairs_first blank_nil).mp h
    obtain ⟨rfl, ha⟩ := named_written.mp hk
    rw [operator_read] at ha
    cases ha
    obtain ⟨k, v, more, ps', rfl, hk, hl⟩ := (pairs_later blank_nil blank_nil).mp h
    obtain ⟨rfl, hv⟩ := named_written.mp hk
    exact ⟨v, more, ps', hv, hl, rfl⟩
  · rintro ⟨v, more, ps', hv, h, rfl⟩
    have ho := named_written.mpr ⟨Eq.refl operatorKey, operator_read o depth
      (0x2C :: 0x22 :: (nameBytes conditionsKey ++ (Utf8.bytes t ++ [0x7D])))⟩
    have hc := named_written.mpr ⟨Eq.refl conditionsKey, hv⟩
    have hl := (pairs_later blank_nil blank_nil).mpr ⟨_, _, _, _, rfl, hc, h⟩
    exact (pairs_first blank_nil).mpr ⟨_, _, _, _, rfl, ho, hl⟩

theorem decodeObject_written {o : Operator} {t : String} {ms : Members} :
    decodeObject (written o t) = .ok ms ↔
      ∃ v more ps w, value 126 (Utf8.bytes t ++ [0x7D]) = .ok (v, more) ∧
        Pairs (value 126) false more ps w ∧ Blanks w ∧
          ms = Members.ofPairs ((operatorKey, o.toJson) :: (conditionsKey, v) :: ps) := by
  rw [decodeObject, decode_ok, bytes_written]
  constructor
  · rintro ⟨w, h, hw⟩
    obtain ⟨more, ps, hb, hp, rfl⟩ := members_ok.mp h
    rw [begin_cons _ _ (by decide)] at hb
    cases hb
    obtain ⟨v, more, ps', hv, hl, rfl⟩ := pairs_written.mp hp
    exact ⟨v, more, ps', w, hv, hl, hw, rfl⟩
  · rintro ⟨v, more, ps, w, hv, hp, hw, rfl⟩
    have hp := pairs_written (o := o).mpr ⟨v, more, ps, hv, hp, rfl⟩
    exact ⟨w, members_ok.mpr ⟨_, _, begin_cons _ _ (by decide), hp, rfl⟩, hw⟩

def membersOf (o : Operator) (v : Json) : Members :=
  [(conditionsKey, v), (operatorKey, o.toJson)]

theorem ofPairs_written (o : Operator) (v : Json) :
    Members.ofPairs [(operatorKey, o.toJson), (conditionsKey, v)] = membersOf o v := by
  simp (disch := decide) [membersOf]

theorem membersOf_lookup (o : Operator) (v : Json) :
    (membersOf o v).lookup operatorKey = some o.toJson ∧
      (membersOf o v).lookup conditionsKey = some v := by
  have hb : (operatorKey == conditionsKey) = false := by decide
  simp [membersOf, List.lookup_cons, hb]

theorem decodeObject_value {o : Operator} {t : String} {v : Json} {w : List UInt8}
    (hv : value 126 (Utf8.bytes t ++ [0x7D]) = .ok (v, w ++ [0x7D])) (hw : Blanks w) :
    decodeObject (written o t) = .ok (membersOf o v) := by
  have hp : Pairs (value 126) false (w ++ [0x7D]) [] [] := (pairs_close hw).mpr ⟨rfl, rfl⟩
  exact decodeObject_written.mpr ⟨v, _, [], [], hv, hp, blank_nil, (ofPairs_written o v).symm⟩

theorem operatorOf_toJson (o : Operator) : operatorOf o.toJson = .ok o := by
  cases o <;> rfl

theorem claims_written {o : Operator} {t : String} {v : Json} {w : List UInt8}
    (hv : value 126 (Utf8.bytes t ++ [0x7D]) = .ok (v, w ++ [0x7D])) (hw : Blanks w) :
    claims (written o t) = true := by
  obtain ⟨ho, hc⟩ := membersOf_lookup o v
  simp [claims, begins_written, decodeObject_value hv hw, ho, hc]

theorem parse_written {o : Operator} {t : String} {v : Json} {w : List UInt8} {f : Filter}
    (hv : value 126 (Utf8.bytes t ++ [0x7D]) = .ok (v, w ++ [0x7D])) (hw : Blanks w) :
    parse (written o t) = .ok f ↔
      ∃ ts, v = Triple.listToJson ts ∧ f = .ofTriples o ts := by
  obtain ⟨ho, hc⟩ := membersOf_lookup o v
  simp only [← Triple.listOfJson_iff]
  rw [parse, begins_written, decodeObject_value hv hw]
  cases hj : Triple.listOfJson v with
  | error e => simp [ho, hc, operatorOf_toJson, bind, Except.bind, hj]
  | ok ts => simp [ho, hc, operatorOf_toJson, bind, Except.bind, hj, eq_comm]

theorem parse_refused {o : Operator} {t : String} {f : Filter}
    (hv : ∀ v more, value 126 (Utf8.bytes t ++ [0x7D]) ≠ .ok (v, more)) :
    parse (written o t) ≠ .ok f := by
  intro h
  rw [parse, begins_written] at h
  cases hd : decodeObject (written o t) with
  | error e => simp [hd, bind, Except.bind] at h
  | ok ms =>
    obtain ⟨v, more, -, -, hm, -⟩ := decodeObject_written.mp hd
    exact hv v more hm

end RestGateway.ObjectQuery

import RestGateway.Proofs.Filter.Claiming
import RestGateway.Proofs.Filter.ObjectText
import RestGateway.Proofs.Json.Meaning

/-!
# The grammar of object queries

An object query is answered in stages: it must be one object, bind both keys, name an operator and
list conditions, and the first stage that fails tells the error. Nothing counts of the object but
the values bound last to the two keys.
-/

set_option autoImplicit false

namespace RestGateway.ObjectQuery
open Json Json.Reader Json.Grammar

/-- The text is one object of these pairs, with blanks after it. It opens 127 levels at most. -/
def IsObject (s : String) (ps : List (String × Json)) : Prop :=
  ∃ cs t w, s.toList = '\x7b' :: cs ∧ Utf8.encode cs = t ++ w ∧
    Spells (.members true) 126 t ps ∧ Blanks w

def bound? (ps : List (String × Json)) (key : String) : Option Json := ps.reverse.lookup key

theorem begins_iff {s : String} : begins s = true ↔ s.toList.head? = some '\x7b' := by
  rw [begins, beq_iff_eq]

theorem IsObject.begins {s : String} {ps : List (String × Json)} (h : IsObject s ps) :
    begins s = true := by
  obtain ⟨cs, t, w, hs, -⟩ := h
  rw [begins_iff, hs]
  rfl

theorem decodeObject_iff {s : String} (hb : begins s = true) {ms : Members} :
    decodeObject s = .ok ms ↔ ∃ ps, IsObject s ps ∧ ms = Members.ofPairs ps := by
  obtain ⟨cs, hs⟩ := List.head?_eq_some_iff.mp (begins_iff.mp hb)
  have hbrace : String.utf8EncodeChar '\x7b' = [0x7B] := rfl
  have hbytes : Utf8.bytes s = 0x7B :: Utf8.encode cs := by
    rw [Utf8.bytes, hs, Utf8.encode_cons, hbrace, List.singleton_append]
  have hopen : begin (0x7B :: Utf8.encode cs) = .ok (0x7B, 0x7B :: Utf8.encode cs) :=
    begin_cons _ _ (by decide)
  rw [decodeObject, decode_ok, hbytes]
  constructor
  · rintro ⟨w, h, hw⟩
    obtain ⟨more, ps, hmore, hp, rfl⟩ := members_ok.mp h
    rw [hopen] at hmore
    cases hmore
    obtain ⟨t, ht, hps⟩ := (pairs_iff (blanks_boundary hw)).mp hp
    exact ⟨ps, ⟨cs, t, w, hs, ht, hps, hw⟩, rfl⟩
  · rintro ⟨ps, ⟨cs', t, w, hs', ht, hps, hw⟩, rfl⟩
    rw [hs] at hs'
    cases hs'
    have hp := (pairs_iff (blanks_boundary hw)).mpr ⟨t, ht, hps⟩
    exact ⟨w, members_ok.mpr ⟨_, ps, hopen, hp, rfl⟩, hw⟩

def Names (v : Json) (o : Operator) : Prop :=
  ∃ name, v = .string name ∧ Ascii.lower name.toList = o.name.toList

/-- What is shown of a value that names no operator. -/
def shown : Json → String
  | .string name => name
  | v => v.text

/-- The condition that an element of a list stands for. -/
inductive Stands : Json → Condition → Prop where
  | values (path relation : String) (items : List Json) :
      Stands (.list [.string path, .string relation, .list items]) ⟨path, relation, items⟩
  | value (path relation : String) (v : Json) (h : ∀ items, v ≠ .list items) :
      Stands (.list [.string path, .string relation, v]) ⟨path, relation, [v]⟩

def Lists (v : Json) (cs : List Condition) : Prop :=
  ∃ items, v = .list items ∧ List.Forall₂ Stands items cs

theorem operatorOf_iff {v : Json} {o : Operator} : operatorOf v = .ok o ↔ Names v o := by
  cases v with
  | string name =>
    have hname := Call.operator_parse name.toList o
    rw [String.ofList_toList] at hname
    rw [operatorOf, hname]
    constructor
    · exact fun h => ⟨name, rfl, h⟩
    · rintro ⟨_, ⟨⟩, h⟩
      exact h
  | _ => exact iff_of_false (fun h => by cases h) fun ⟨_, hv, _⟩ => by cases hv

theorem operatorOf_shown {v : Json} (h : ∀ o, ¬Names v o) :
    operatorOf v = .error (.unsupportedOperator (shown v)) := by
  cases hv : operatorOf v with
  | ok o => exact absurd (operatorOf_iff.mp hv) (h o)
  | error e =>
    cases v with
    | string name => rw [Operator.parse_error hv, shown]
    | _ => exact hv.symm

theorem stands_iff {v : Json} {c : Condition} :
    Stands v c ↔ ∃ t : Triple, v = t.toJson ∧ c = t.condition := by
  constructor
  · rintro (⟨path, relation, items⟩ | ⟨path, relation, v, h⟩)
    · exact ⟨⟨path, relation, .list items⟩, rfl, rfl⟩
    · refine ⟨⟨path, relation, v⟩, rfl, ?_⟩
      cases v with
      | list items => exact absurd rfl (h items)
      | _ => rfl
  · rintro ⟨⟨path, relation, v⟩, rfl, rfl⟩
    cases v with
    | list items => exact .values path relation items
    | _ => exact .value path relation _ fun _ h => by cases h

theorem forall_stands {items : List Json} {cs : List Condition} :
    List.Forall₂ Stands items cs ↔
      ∃ ts : List Triple, items = ts.map Triple.toJson ∧ cs = ts.map Triple.condition := by
  constructor
  · intro h
    induction h with
    | nil => exact ⟨[], rfl, rfl⟩
    | cons hv _ ih =>
      obtain ⟨t, rfl, rfl⟩ := stands_iff.mp hv
      obtain ⟨ts, rfl, rfl⟩ := ih
      exact ⟨t :: ts, rfl, rfl⟩
  · rintro ⟨ts, rfl, rfl⟩
    induction ts with
    | nil => exact .nil
    | cons t ts ih => exact .cons (stands_iff.mpr ⟨t, rfl, rfl⟩) ih

theorem lists_iff {v : Json} {cs : List Condition} :
    Lists v cs ↔ ∃ ts, Triple.listOfJson v = .ok ts ∧ cs = ts.map Triple.condition := by
  simp only [Lists, forall_stands, Triple.listOfJson_iff, Triple.listToJson]
  constructor
  · rintro ⟨items, rfl, ts, rfl, rfl⟩
    exact ⟨ts, rfl, rfl⟩
  · rintro ⟨ts, rfl, rfl⟩
    exact ⟨_, rfl, ts, rfl, rfl⟩

/-- What a text is answered with, stage by stage. -/
inductive Answered (s : String) : Except QueryError Filter → Prop where
  | noBrace (h : s.toList.head? ≠ some '\x7b') : Answered s (.error (.missingStart "\x7b"))
  | noObject (hb : s.toList.head? = some '\x7b') (h : ∀ ps, ¬IsObject s ps) (diagnostic : String)
      (hd : decodeObject s = .error diagnostic) : Answered s (.error (.decode diagnostic))
  | noOperator (ps : List (String × Json)) (h : IsObject s ps) (ho : bound? ps operatorKey = none) :
      Answered s (.error (.missingKey operatorKey))
  | noConditions (ps : List (String × Json)) (h : IsObject s ps) (o : Json)
      (ho : bound? ps operatorKey = some o) (hc : bound? ps conditionsKey = none) :
      Answered s (.error (.missingKey conditionsKey))
  | operator (ps : List (String × Json)) (h : IsObject s ps) (o c : Json)
      (ho : bound? ps operatorKey = some o) (hc : bound? ps conditionsKey = some c)
      (hn : ∀ op, ¬Names o op) : Answered s (.error (.unsupportedOperator (shown o)))
  | conditions (ps : List (String × Json)) (h : IsObject s ps) (o c : Json)
      (ho : bound? ps operatorKey = some o) (hc : bound? ps conditionsKey = some c)
      (op : Operator) (hn : Names o op) (hl : ∀ cs, ¬Lists c cs) (cause : Cause)
      (hd : Triple.listOfJson c = .error cause) : Answered s (.error (.decode cause.message))
  | filter (ps : List (String × Json)) (h : IsObject s ps) (o c : Json)
      (ho : bound? ps operatorKey = some o) (hc : bound? ps conditionsKey = some c)
      (op : Operator) (hn : Names o op) (cs : List Condition) (hl : Lists c cs) :
      Answered s (.ok ⟨op, cs⟩)

theorem parse_noBrace {s : String} (h : begins s = false) :
    parse s = .error (.missingStart "\x7b") := by
  rw [parse, h]
  rfl

theorem parse_noObject {s d : String} (hb : begins s = true) (h : decodeObject s = .error d) :
    parse s = .error (.decode d) := by
  rw [parse, hb, h]
  rfl

/-- What counts of an object are the values bound last to the two keys. -/
theorem parse_object {s : String} {ps : List (String × Json)} (h : IsObject s ps) : parse s =
    match bound? ps operatorKey, bound? ps conditionsKey with
    | none, _ => .error (.missingKey operatorKey)
    | some _, none => .error (.missingKey conditionsKey)
    | some o, some c =>
      operatorOf o >>= fun op => ((Triple.listOfJson c).mapError fun c => .decode c.message) >>=
        fun ts => .ok (.ofTriples op ts) := by
  have hd := (decodeObject_iff h.begins).mpr ⟨ps, h, rfl⟩
  rw [parse, h.begins, hd, mapError_ok, ok_bind, Members.lookup_ofPairs, Members.lookup_ofPairs]
  rfl

theorem Answered.parse_eq {s : String} {r : Except QueryError Filter} (h : Answered s r) :
    parse s = r := by
  cases h with
  | noBrace h => exact parse_noBrace (Bool.eq_false_iff.mpr fun hb => h (begins_iff.mp hb))
  | noObject hb _ d hd => exact parse_noObject (begins_iff.mpr hb) hd
  | noOperator ps h ho => rw [parse_object h, ho]
  | noConditions ps h o ho hc => rw [parse_object h, ho, hc]
  | operator ps h o c ho hc hn =>
    simp only [parse_object h, ho, hc, operatorOf_shown hn, error_bind]
  | conditions ps h o c ho hc op hn _ cause hd =>
    simp only [parse_object h, ho, hc, operatorOf_iff.mpr hn, hd, ok_bind, mapError_error,
      error_bind]
  | filter ps h o c ho hc op hn cs hl =>
    obtain ⟨ts, ht, rfl⟩ := lists_iff.mp hl
    simp only [parse_object h, ho, hc, operatorOf_iff.mpr hn, ht, ok_bind, mapError_ok,
      Filter.ofTriples]

theorem answered_bound {s : String} {ps : List (String × Json)} (h : IsObject s ps) {o c : Json}
    (ho : bound? ps operatorKey = some o) (hc : bound? ps conditionsKey = some c) :
    ∃ r, Answered s r := by
  by_cases hn : ∃ op, Names o op
  · obtain ⟨op, hn⟩ := hn
    cases ht : Triple.listOfJson c with
    | ok ts => exact ⟨_, .filter ps h o c ho hc op hn _ (lists_iff.mpr ⟨ts, ht, rfl⟩)⟩
    | error cause =>
      refine ⟨_, .conditions ps h o c ho hc op hn (fun cs hl => ?_) cause ht⟩
      obtain ⟨ts, hok, -⟩ := lists_iff.mp hl
      cases ht.symm.trans hok
  · exact ⟨_, .operator ps h o c ho hc fun op hop => hn ⟨op, hop⟩⟩

theorem answered_exists (s : String) : ∃ r, Answered s r := by
  by_cases hb : s.toList.head? = some '\x7b'
  · cases hd : decodeObject s with
    | error d =>
      refine ⟨_, .noObject hb (fun ps h => ?_) d hd⟩
      cases hd.symm.trans ((decodeObject_iff h.begins).mpr ⟨ps, h, rfl⟩)
    | ok ms =>
      obtain ⟨ps, h, -⟩ := (decodeObject_iff (begins_iff.mpr hb)).mp hd
      cases ho : bound? ps operatorKey with
      | none => exact ⟨_, .noOperator ps h ho⟩
      | some o =>
        cases hc : bound? ps conditionsKey with
        | none => exact ⟨_, .noConditions ps h o ho hc⟩
        | some c => exact answered_bound h ho hc
  · exact ⟨_, .noBrace hb⟩

/-- Every text is answered by the first stage that fails, or with the filter where none does. Of an
object nothing counts but the values bound last to the two keys: neither other keys, nor the order
of the pairs, nor how names and values are spelled. A numeral in it is a number unless it is too
large. -/
theorem parse_stages :
    (∀ s r, parse s = r ↔ Answered s r) ∧
      (∀ s s' ps ps', IsObject s ps → IsObject s' ps' →
        bound? ps operatorKey = bound? ps' operatorKey →
        bound? ps conditionsKey = bound? ps' conditionsKey → parse s = parse s') ∧
      ∀ negative t, Numeral t → (∃ x, Reader.number negative t = .ok (x, [])) ∨
        ∃ f, Reader.number negative t = .error f ∧ f.cause = .numberTooLarge := by
  refine ⟨fun s r => ⟨?_, Answered.parse_eq⟩, ?_, fun negative _ ht => numeral_sized negative ht⟩
  · rintro rfl
    obtain ⟨r, h⟩ := answered_exists s
    rwa [h.parse_eq]
  · intro s s' ps ps' h h' ho hc
    rw [parse_object h, parse_object h', ho, hc]

theorem isObject_read {rest : String} {ps : List (String × Json)} {w : List UInt8}
    (hr : repeatedly (objectStep (value 126)) [] (Utf8.encode rest.toList) = .ok (ps, w))
    (hw : Blanks w) : IsObject ("\x7b" ++ rest) ps := by
  have hs : ("\x7b" ++ rest).toList = '\x7b' :: rest.toList := by simp
  have hp := (repeatedly_pairs (takes_value 126)).mp hr
  obtain ⟨t, ht, hps⟩ := (pairs_iff (blanks_boundary hw)).mp hp
  exact ⟨rest.toList, t, w, hs, ht, hps, hw⟩

def compact : String := "\x7b" ++ "\"logical_operator\":\"or\",\"conditions\":[]\x7d"

def varied : String := "\x7b" ++
  " \"conditions\":1,\"x\":null,\"conditions\" : [],\"logical_oper\\u0061tor\":\"or\"\x7d "

theorem compact_object :
    IsObject compact [(operatorKey, .string "or"), (conditionsKey, .list [])] :=
  isObject_read (ok_of_toOption (by decide +kernel)) blank_nil

theorem varied_object : IsObject varied [(conditionsKey, .number (.int 1)), ("x", .null),
    (conditionsKey, .list []), (operatorKey, .string "or")] := by
  have hblank : Blanks [0x20] := List.all_eq_true.mp rfl
  exact isObject_read (ok_of_toOption (by decide +kernel)) hblank

theorem parse_stages_varied : parse varied = .ok ⟨.or, []⟩ ∧ parse varied = parse compact := by
  obtain ⟨hstages, hsame, -⟩ := parse_stages
  have hnames : Names (.string "or") .or := ⟨"or", rfl, rfl⟩
  have hlists : Lists (.list []) [] := ⟨[], rfl, .nil⟩
  refine ⟨(hstages _ _).mpr ?_, hsame _ _ _ _ varied_object compact_object rfl rfl⟩
  exact .filter _ varied_object _ _ rfl rfl _ hnames _ hlists

def extended (v : String) : String := written .and ("[],\"x\":" ++ v)

theorem bytes_extended (v : String) : Utf8.bytes (extended v) =
    0x7B :: 0x22 :: (nameBytes operatorKey ++ ([0x22, 0x61, 0x6E, 0x64, 0x22] ++
      0x2C :: 0x22 :: (nameBytes conditionsKey ++ (0x5B :: 0x5D :: 0x2C :: 0x22 ::
        (nameBytes "x" ++ (Utf8.bytes v ++ [0x7D])))))) := by
  have hand : Utf8.encode Operator.and.toJson.chars = [0x22, 0x61, 0x6E, 0x64, 0x22] := by decide
  have hlist : Utf8.encode "[],\"x\":".toList = 0x5B :: 0x5D :: 0x2C :: 0x22 :: nameBytes "x" := by
    decide
  rw [extended, bytes_written, hand, Utf8.bytes, String.toList_append, Utf8.encode_append, hlist]
  simp [Utf8.bytes]

theorem plain_body {t : List UInt8} (h : t.all (fun b => decide (Plain b)) = true) : Body t :=
  content_body (content_plain h)

theorem extended_phrase {n : Nat} {v : String} (h : Phrase .value (n + 1) (Utf8.bytes v)) :
    Phrase .value (n + 2) (Utf8.bytes (extended v)) := by
  have hoperator : nameBytes operatorKey = Utf8.bytes operatorKey ++ [0x22, 0x3A] := by decide
  have hconditions : nameBytes conditionsKey = Utf8.bytes conditionsKey ++ [0x22, 0x3A] := by decide
  have hx : nameBytes "x" = Utf8.bytes "x" ++ [0x22, 0x3A] := by decide
  have hand : Phrase .value (n + 1) [0x22, 0x61, 0x6E, 0x64, 0x22] :=
    .string (plain_body (t := [0x61, 0x6E, 0x64]) (by decide))
  have hlist : Phrase .value (n + 1) [0x5B, 0x5D] := .list (.listEnd blank_nil)
  have hlast := Phrase.member (.later blank_nil blank_nil)
    (plain_body (t := Utf8.bytes "x") (by decide)) blank_nil blank_nil h (.objectEnd blank_nil)
  have hsecond := Phrase.member (.later blank_nil blank_nil)
    (plain_body (t := Utf8.bytes conditionsKey) (by decide)) blank_nil blank_nil hlist hlast
  have hfirst := Phrase.member (.first blank_nil)
    (plain_body (t := Utf8.bytes operatorKey) (by decide)) blank_nil blank_nil hand hsecond
  rw [bytes_extended, hoperator, hconditions, hx]
  simpa using Phrase.object hfirst

theorem extended_ok {v : String} {ms : Members} (h : decodeObject (extended v) = .ok ms) :
    ∃ x more, value 126 (Utf8.bytes v ++ [0x7D]) = .ok (x, more) := by
  rw [decodeObject, decode_ok, bytes_extended] at h
  obtain ⟨w, hm, -⟩ := h
  obtain ⟨more, ps, hopen, hp, -⟩ := members_ok.mp hm
  rw [begin_cons _ _ (by decide)] at hopen
  cases hopen
  obtain ⟨_, _, more, ps, -, hn, hp⟩ := (pairs_first blank_nil).mp hp
  obtain ⟨-, ho⟩ := named_written.mp hn
  have hand := value_string 126 "and" (0x2C :: 0x22 :: (nameBytes conditionsKey ++
    (0x5B :: 0x5D :: 0x2C :: 0x22 :: (nameBytes "x" ++ (Utf8.bytes v ++ [0x7D])))))
  have hquote : Utf8.encode (quote "and") = [0x22, 0x61, 0x6E, 0x64, 0x22] := by decide
  rw [hquote] at hand
  rw [hand] at ho
  cases ho
  obtain ⟨_, _, more, ps, -, hn, hp⟩ := (pairs_later blank_nil blank_nil).mp hp
  obtain ⟨-, hc⟩ := named_written.mp hn
  obtain ⟨items, -, hi⟩ := value_list.mp hc
  obtain ⟨-, rfl⟩ := (items_close blank_nil).mp hi
  obtain ⟨_, x, more, ps, -, hn, -⟩ := (pairs_later blank_nil blank_nil).mp hp
  obtain ⟨-, hx⟩ := named_written.mp hn
  exact ⟨x, more, hx⟩

theorem value_deep (depth : Nat) (bs : List UInt8) (p : Json × List UInt8) :
    value depth (List.replicate (depth + 1) 0x5B ++ bs) ≠ .ok p := by
  obtain ⟨v, rest⟩ := p
  induction depth generalizing v rest with
  | zero =>
    intro h
    cases h
  | succ depth ih =>
    intro h
    obtain ⟨items, -, hi⟩ := value_list.mp h
    rcases items_first.mp hi with ⟨-, hf⟩ | ⟨v, vs, more, -, hv, -⟩
    · have hopen := first_cons 0x5B (List.replicate depth 0x5B ++ bs) (by decide)
      cases hf.symm.trans hopen
    · exact ih v more hv

theorem nested_phrase (n : Nat) :
    Phrase .value (n + 1) (List.replicate (n + 1) 0x5B ++ List.replicate (n + 1) 0x5D) := by
  induction n with
  | zero => exact .list (.listEnd blank_nil)
  | succ n ih =>
    have hclose : Phrase (.items false) (n + 1) [0x5D] := .listEnd blank_nil
    have h := Phrase.list (.item (.first blank_nil) ih hclose)
    rw [List.replicate_succ, List.replicate_succ' (a := 0x5D)]
    simpa using h

def large : String := "1e9999999999"

def half : String := "\"\\ud800\""

def nested (n : Nat) : String := String.ofList (List.replicate n '[' ++ List.replicate n ']')

theorem encode_replicate {c : Char} {b : UInt8} (h : String.utf8EncodeChar c = [b]) (n : Nat) :
    Utf8.encode (List.replicate n c) = List.replicate n b := by
  induction n with
  | zero => rfl
  | succ n ih =>
    rw [List.replicate_succ, List.replicate_succ, Utf8.encode_cons, h, ih]
    rfl

theorem bytes_nested (n : Nat) :
    Utf8.bytes (nested n) = List.replicate n 0x5B ++ List.replicate n 0x5D := by
  have hopen : String.utf8EncodeChar '[' = [0x5B] := rfl
  have hclose : String.utf8EncodeChar ']' = [0x5D] := rfl
  rw [Utf8.bytes, nested, String.toList_ofList, Utf8.encode_append, encode_replicate hopen,
    encode_replicate hclose]

/-- The text of one object that is not decoded. -/
def Undecoded (s : String) : Prop :=
  s.toList.head? = some '\x7b' ∧ (∃ n, Phrase .value n (Utf8.bytes s)) ∧
    ∃ d, decodeObject s = .error d ∧ parse s = .error (.decode d)

theorem extended_undecoded {n : Nat} {v : String} (h : Phrase .value (n + 1) (Utf8.bytes v))
    (hv : ∀ p, value 126 (Utf8.bytes v ++ [0x7D]) ≠ .ok p) : Undecoded (extended v) := by
  have hb : begins (extended v) = true := begins_written .and ("[],\"x\":" ++ v)
  refine ⟨begins_iff.mp hb, ⟨n + 2, extended_phrase h⟩, ?_⟩
  cases hd : decodeObject (extended v) with
  | ok ms =>
    obtain ⟨x, more, hx⟩ := extended_ok hd
    exact absurd hx (hv _)
  | error d => exact ⟨d, rfl, parse_noObject hb hd⟩

theorem large_phrase (n : Nat) : Phrase .value n (Utf8.bytes large) := by
  have hexponent : Exponent [0x65, 0x39, 0x39, 0x39, 0x39, 0x39, 0x39, 0x39, 0x39, 0x39, 0x39] :=
    @Exponent.some 0x65 [] [0x39, 0x39, 0x39, 0x39, 0x39, 0x39, 0x39, 0x39, 0x39, 0x39]
      (by decide) (by decide) (by decide)
  exact .number (@Numeral.mk [0x31] _ (by decide) (.plain hexponent))

theorem half_phrase (n : Nat) : Phrase .value n (Utf8.bytes half) := by
  have hbody : Body [0x5C, 0x75, 0x64, 0x38, 0x30, 0x30] :=
    .unicode (List.all_eq_true.mp rfl) .done
  exact .string hbody

theorem parse_limits : Undecoded (extended large) ∧ Undecoded (extended half) ∧
    Undecoded (extended (nested 127)) := by
  refine ⟨extended_undecoded (large_phrase 1) fun p h => ?_,
    extended_undecoded (half_phrase 1) fun p h => ?_, ?_⟩
  · have hfails : (value 126 (Utf8.bytes large ++ [0x7D])).isOk = false := by
      decide +kernel
    rw [h] at hfails
    cases hfails
  · have hfails : (value 126 (Utf8.bytes half ++ [0x7D])).isOk = false := by
      decide +kernel
    rw [h] at hfails
    cases hfails
  · have hlists := nested_phrase 126
    rw [← bytes_nested] at hlists
    refine extended_undecoded hlists fun p => ?_
    rw [bytes_nested, List.append_assoc]
    exact value_deep 126 _ p

end RestGateway.ObjectQuery

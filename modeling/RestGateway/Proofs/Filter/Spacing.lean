import RestGateway.Proofs.Filter.Claiming
import RestGateway.Proofs.Filter.Triples

/-!
# Blanks in the body of a call

The body of a call is a list of triples, or triples that are a list once brackets are put around
them. Which of the two it is, is told by its first two characters and not by its first two tokens,
and the line feed is no character of a body. So blanks are harmless everywhere but in two places:
between the first two brackets of a list, and where they are line feeds.
-/

set_option autoImplicit false

namespace RestGateway.Call
open Json Json.Reader

def textOf (name body : List Char) : String := String.ofList (name ++ '(' :: (body ++ [')']))

def bracketed (body : List Char) : List Char := '[' :: body ++ [']']

theorem decodeTriples_ok {text : List Char} {ts : List Triple} :
    decodeTriples text = .ok ts ↔
      ∃ w, value Decoder.levels (Utf8.encode text) = .ok (Triple.listToJson ts, w) ∧ Blanks w := by
  rw [← Triple.decode_triples, decodeTriples]
  cases (Decoder.list Triple.decoder).decode (Utf8.encode text) <;> simp [Except.mapError]

theorem encode_bracket (cs : List Char) : Utf8.encode ('[' :: cs) = 0x5B :: Utf8.encode cs := by
  have ho : String.utf8EncodeChar '[' = [0x5B] := rfl
  rw [Utf8.encode_cons, ho, List.singleton_append]

theorem encode_bracketed (body : List Char) :
    Utf8.encode (bracketed body) = 0x5B :: (Utf8.encode body ++ [0x5D]) := by
  have hc : String.utf8EncodeChar ']' = [0x5D] := rfl
  rw [bracketed, List.cons_append, encode_bracket, Utf8.encode_append, Utf8.encode_cons, hc,
    Utf8.encode_nil, List.append_nil]

theorem begin_append {bs more : List UInt8} {b : UInt8} (h : begin bs = .ok (b, more))
    (s : List UInt8) : begin (bs ++ s) = .ok (b, more ++ s) := by
  have hf := first_begin h
  obtain ⟨tail, rfl⟩ := first_some _ _ _ hf
  obtain ⟨-, hd⟩ := Prod.mk.inj (Except.ok.inj hf)
  apply begin_first
  have hs : (bs ++ s).dropWhile isBlank = b :: (tail ++ s) := by
    rw [List.dropWhile_append, hd]
    rfl
  simp [first, hs]

theorem list_opens {rest : List Char} {ts : List Triple}
    (h : decodeTriples ('[' :: rest) = .ok ts) :
    ∃ b more, begin (Utf8.encode rest) = .ok (b, more) ∧ b ≠ 0x22 := by
  obtain ⟨w, hv, -⟩ := decodeTriples_ok.mp h
  rw [encode_bracket] at hv
  obtain ⟨items, hitems, hi⟩ := value_list.mp hv
  obtain rfl := Json.list.inj hitems
  rcases items_first.mp hi with ⟨-, hf⟩ | ⟨v, vs, more, hvs, hv, -⟩
  · exact ⟨0x5D, _, begin_first hf, by decide⟩
  · obtain ⟨t, ts', -, rfl, -⟩ := List.map_eq_cons_iff.mp hvs
    obtain ⟨inner, more', -, hb, -⟩ := value_list_iff.mp hv
    exact ⟨0x5B, _, hb, by decide⟩

theorem triple_opens {rest : List Char} {ts : List Triple}
    (h : decodeTriples (bracketed ('[' :: rest)) = .ok ts) :
    ∃ more, begin (Utf8.encode rest ++ [0x5D]) = .ok (0x22, more) := by
  obtain ⟨w, hv, -⟩ := decodeTriples_ok.mp h
  rw [encode_bracketed, encode_bracket, List.cons_append] at hv
  obtain ⟨items, hitems, hi⟩ := value_list.mp hv
  obtain rfl := Json.list.inj hitems
  rcases items_first.mp hi with ⟨-, hf⟩ | ⟨v, vs, more, hvs, hv, -⟩
  · rw [first_cons 0x5B _ (by decide)] at hf
    cases hf
  · obtain ⟨t, ts', -, rfl, -⟩ := List.map_eq_cons_iff.mp hvs
    obtain ⟨items, hitems, hi⟩ := value_list.mp hv
    obtain rfl := Json.list.inj hitems
    rcases items_first.mp hi with ⟨hnil, -⟩ | ⟨v, vs, more, hvs, hv, -⟩
    · cases hnil
    · obtain ⟨rfl, -⟩ := List.cons.inj hvs
      obtain ⟨more, hb, -⟩ := value_string_iff.mp hv
      exact ⟨_, hb⟩

/-- No body is a list of triples both as it stands and in brackets. -/
theorem decodeTriples_exclusive {rest : List Char} {ts ts' : List Triple}
    (h : decodeTriples ('[' :: rest) = .ok ts) :
    decodeTriples (bracketed ('[' :: rest)) ≠ .ok ts' := by
  intro h'
  obtain ⟨b, more, hb, hne⟩ := list_opens h
  obtain ⟨more', hq⟩ := triple_opens h'
  rw [begin_append hb] at hq
  cases hq
  exact hne rfl

theorem listText_single {rest : List Char} (h : ¬∃ more, '[' :: rest = '[' :: '[' :: more) :
    listText ('[' :: rest) = bracketed ('[' :: rest) := by
  apply if_neg
  intro hp
  obtain ⟨more, hm⟩ := List.isPrefixOf_iff_prefix.mp hp
  exact h ⟨more, by simpa using hm.symm⟩

theorem bracketed_single {body : List Char} {ts : List Triple}
    (h : decodeTriples (bracketed body) = .ok ts) : ¬∃ more, body = '[' :: '[' :: more := by
  rintro ⟨more, rfl⟩
  obtain ⟨more', hq⟩ := triple_opens h
  rw [encode_bracket, List.cons_append, begin_cons 0x5B _ (by decide)] at hq
  cases hq

variable {name body : List Char} {o : Operator}

theorem textOf_written (hn : Ascii.lower name = o.name.toList) (hb : body.head? = some '[')
    (hl : '\n' ∉ body) : Written (textOf name body) o body :=
  ⟨⟨name, hn, String.toList_ofList⟩, hb, hl⟩

theorem parse_line (hn : Ascii.lower name = o.name.toList) (hb : body.head? = some '[')
    (hl : '\n' ∉ body) :
    parse (textOf name body) = (decodeTriples (listText body)).map (.ofTriples o) := by
  rw [parse_written _ o body (textOf_written hn hb hl), nested_parse body hb]
  cases decodeTriples (listText body) <;> rfl

theorem parse_lines (hn : Ascii.lower name = o.name.toList) (hl : '\n' ∈ body) :
    parse (textOf name body) = .error .invalidFormat := by
  have hk := operator_keyword name (body ++ [')']) o hn
  have hs := split_text name body (name_ne_nil name o hn) (name_isWord name o hn)
  rw [if_pos hl] at hs
  simp only [parse, textOf, String.toList_ofList, hk, hs, if_true]

/-- A list of triples whose first two brackets are parted is taken for triples without a list around
them, which do not decode. -/
theorem parse_parted (hn : Ascii.lower name = o.name.toList) (hb : body.head? = some '[')
    (hl : '\n' ∉ body) (hm : ¬∃ more, body = '[' :: '[' :: more) {ts : List Triple}
    (hd : decodeTriples body = .ok ts) : ∃ d, parse (textOf name body) = .error (.decode d) := by
  obtain ⟨rest, rfl⟩ := List.head?_eq_some_iff.mp hb
  rw [parse_line hn hb hl, listText_single hm]
  cases hd' : decodeTriples (bracketed ('[' :: rest)) with
  | error e =>
    obtain ⟨d, rfl⟩ := decodeTriples_error hd'
    exact ⟨d, rfl⟩
  | ok ts' => exact absurd hd' (decodeTriples_exclusive hd)

/-- Where the body of a call is a list of triples, the call means them exactly if the body holds no
line feed and no blank between its first two brackets; where it is one in brackets, exactly if it
holds no line feed. A line feed is refused as no call at all, and a blank between the brackets as
text that does not decode. -/
theorem parse_spaced (name body : List Char) (o : Operator) (ts : List Triple)
    (hn : Ascii.lower name = o.name.toList) (hb : body.head? = some '[') :
    ('\n' ∈ body → parse (textOf name body) = .error .invalidFormat) ∧
      (decodeTriples (bracketed body) = .ok ts →
        (parse (textOf name body) = .ok (.ofTriples o ts) ↔ '\n' ∉ body)) ∧
      (decodeTriples body = .ok ts →
        (parse (textOf name body) = .ok (.ofTriples o ts) ↔
          '\n' ∉ body ∧ ∃ more, body = '[' :: '[' :: more) ∧
        ('\n' ∉ body → (¬∃ more, body = '[' :: '[' :: more) →
          ∃ d, parse (textOf name body) = .error (.decode d))) := by
  have hlines : '\n' ∈ body → parse (textOf name body) = .error .invalidFormat := parse_lines hn
  have hone {f : Filter} (h : parse (textOf name body) = .ok f) : '\n' ∉ body := by
    intro hl
    rw [hlines hl] at h
    cases h
  refine ⟨hlines, fun hd => ⟨hone, fun hl => ?_⟩, fun hd => ⟨⟨fun h => ?_, ?_⟩, ?_⟩⟩
  · obtain ⟨rest, rfl⟩ := List.head?_eq_some_iff.mp hb
    rw [parse_line hn hb hl, listText_single (bracketed_single hd), hd]
    rfl
  · refine ⟨hone h, ?_⟩
    by_contra hm
    obtain ⟨d, hp⟩ := parse_parted hn hb (hone h) hm hd
    rw [h] at hp
    cases hp
  · rintro ⟨hl, more, rfl⟩
    have ht : listText ('[' :: '[' :: more) = '[' :: '[' :: more := rfl
    rw [parse_line hn hb hl, ht, hd]
    rfl
  · exact fun hl hm => parse_parted hn hb hl hm hd

def spaced : List Char := "[[\"a\" ,\t\"is\",\r null ] ] ".toList

theorem parse_spaced_blanks : Ascii.lower "aNd".toList = Operator.and.name.toList ∧
    spaced.head? = some '[' ∧ decodeTriples spaced = .ok [⟨"a", "is", .null⟩] ∧
      parse (textOf "aNd".toList spaced) = .ok (.ofTriples .and [⟨"a", "is", .null⟩]) := by
  have hn : Ascii.lower "aNd".toList = Operator.and.name.toList := by decide
  have hd : decodeTriples spaced = .ok [⟨"a", "is", .null⟩] := ok_of_toOption (by decide +kernel)
  have hl : '\n' ∉ spaced := by decide
  obtain ⟨-, -, h⟩ := parse_spaced "aNd".toList spaced .and [⟨"a", "is", .null⟩] hn (by decide)
  exact ⟨hn, by decide, hd, (h hd).1.mpr ⟨hl, _, rfl⟩⟩

def parted : List Char := "[ [\"a\",\"is\",null]]".toList

def broken : List Char := "[\"a\",\n\"is\",null]".toList

theorem broken_ok : decodeTriples (bracketed broken) = .ok [⟨"a", "is", .null⟩] :=
  ok_of_toOption (by decide +kernel)

/-- Both bodies are written as they should be, and both calls are refused. -/
theorem parse_spaced_refused :
    (decodeTriples parted = .ok [⟨"a", "is", .null⟩] ∧
      ∃ d, parse (textOf "and".toList parted) = .error (.decode d)) ∧
    decodeTriples (bracketed broken) = .ok [⟨"a", "is", .null⟩] ∧
      parse (textOf "and".toList broken) = .error .invalidFormat := by
  have hn : Ascii.lower "and".toList = Operator.and.name.toList := by decide
  have hd : decodeTriples parted = .ok [⟨"a", "is", .null⟩] := ok_of_toOption (by decide +kernel)
  have hm : ¬∃ more, parted = '[' :: '[' :: more := by
    rintro ⟨more, hm⟩
    have hsecond : parted.tail.head? = some ' ' := by decide
    rw [hm] at hsecond
    exact absurd hsecond (by decide : some '[' ≠ some ' ')
  have hl : '\n' ∈ broken := by decide
  exact ⟨⟨hd, parse_parted hn (by decide) (by decide) hm hd⟩, broken_ok, parse_lines hn hl⟩

end RestGateway.Call

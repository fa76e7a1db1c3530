import Mathlib.Data.List.Basic
import Mathlib.Data.List.TakeWhile
import RestGateway.Filter.Call
import RestGateway.Filter.NestedList

/-!
# The grammar of calls

A call is an operator's name and a body in parentheses. The splitter finds the one way to cut a text
like this, and to parse a call is to parse its body as a nested list under the named operator: the
same texts are refused, with the same diagnostics.
-/

set_option autoImplicit false

namespace RestGateway.Call

theorem lower_cases (c : Char) : c.toLower = c ∨ ('A' ≤ c ∧ c ≤ 'Z') := by
  unfold Char.toLower
  split
  · next h => exact Or.inr h
  · exact Or.inl rfl

theorem isWord_upper (c : Char) (h : 'A' ≤ c ∧ c ≤ 'Z') : Text.isWord c = true := by
  have hc : c.toNat < 0x80 := by
    have hz : c.toNat ≤ 'Z'.toNat := h.2
    simp at hz
    omega
  simp [Text.isWord, Text.isAsciiWord, hc, h]

theorem isWord_lower (c : Char) (h : Text.isWord c.toLower = true) : Text.isWord c = true := by
  rcases lower_cases c with hc | hc
  · rwa [hc] at h
  · exact isWord_upper c hc

theorem word_stop : Text.isWord '(' = false := by decide

theorem split_text (n b : List Char) (hn : n ≠ []) (hw : ∀ c ∈ n, Text.isWord c = true) :
    split? (n ++ '(' :: (b ++ [')'])) = if '\n' ∈ b then none else some (n, b) := by
  have ht : (n ++ '(' :: (b ++ [')'])).takeWhile Text.isWord = n := by
    rw [List.takeWhile_append_of_pos hw]
    simp [word_stop]
  have hd : (n ++ '(' :: (b ++ [')'])).dropWhile Text.isWord = '(' :: (b ++ [')']) := by
    rw [List.dropWhile_append_of_pos hw]
    simp [word_stop]
  obtain ⟨c, m, rfl⟩ := List.exists_cons_of_ne_nil hn
  unfold split?
  rw [ht, hd]
  by_cases hb : '\n' ∈ b <;> simp [hb]

theorem split_cut (n b : List Char) (hn : n ≠ []) (hw : ∀ c ∈ n, Text.isWord c = true)
    (hb : '\n' ∉ b) : split? (n ++ '(' :: (b ++ [')'])) = some (n, b) := by
  rw [split_text n b hn hw, if_neg hb]

theorem cut_split (s n b : List Char) (h : split? s = some (n, b)) :
    n ≠ [] ∧ (∀ c ∈ n, Text.isWord c = true) ∧ '\n' ∉ b ∧ s = n ++ '(' :: (b ++ [')']) := by
  have hs := List.takeWhile_append_dropWhile (p := Text.isWord) (l := s)
  have hw : ∀ c ∈ s.takeWhile Text.isWord, Text.isWord c = true := fun c hc =>
    List.mem_takeWhile_imp hc
  simp only [split?] at h
  split at h
  · next d m rest ht hd =>
    split at h
    · next hr =>
      obtain ⟨rfl, rfl⟩ := Prod.mk.inj (Option.some.inj h)
      have hrest := List.dropLast_append_getLast? (l := rest) ')' hr.1
      refine ⟨by simp [ht], hw, by simpa using hr.2, ?_⟩
      rw [hrest, ← hd, hs]
    · simp at h
  · simp at h

/-- The nested list that a body stands for: itself when it begins with two brackets, else with a
pair of brackets around it. -/
def listText (body : List Char) : List Char :=
  if "[[".toList.isPrefixOf body then body else '[' :: body ++ [']']

/-- `s` is written as a call: the name of `o` in any case of its letters and, in parentheses, a body
that begins with a bracket and holds no line feed. -/
structure Written (s : String) (o : Operator) (body : List Char) : Prop where
  named : ∃ name, Ascii.lower name = o.name.toList ∧ s.toList = name ++ '(' :: (body ++ [')'])
  bracket : body.head? = some '['
  oneLine : '\n' ∉ body

theorem name_ne_nil (name : List Char) (o : Operator) (h : Ascii.lower name = o.name.toList) :
    name ≠ [] := by
  rintro rfl
  cases o <;> simp [Ascii.lower, Operator.name] at h

theorem operator_isWord (o : Operator) : ∀ c ∈ o.name.toList, Text.isWord c = true := by
  have h : o.name.toList.all Text.isWord = true := by cases o <;> decide
  exact List.all_eq_true.mp h

theorem name_isWord (name : List Char) (o : Operator) (h : Ascii.lower name = o.name.toList) :
    ∀ c ∈ name, Text.isWord c = true := by
  intro c hc
  have hl : c.toLower ∈ o.name.toList := h ▸ List.mem_map_of_mem hc
  exact isWord_lower c (operator_isWord o _ hl)

theorem operator_keyword (name rest : List Char) (o : Operator)
    (h : Ascii.lower name = o.name.toList) : hasKeyword (name ++ '(' :: rest) = true := by
  have hl : name.length = o.name.toList.length := by rw [← h, Ascii.lower, List.length_map]
  cases o with
  | and =>
    obtain ⟨a, b, c, rfl⟩ := List.length_eq_three.mp hl
    simp only [hasKeyword, List.cons_append, List.take_succ_cons, List.take_zero, h]
    rfl
  | or =>
    obtain ⟨a, b, rfl⟩ := List.length_eq_two.mp hl
    have ha : Ascii.lower [a, b, '('] = ['o', 'r', '('] := by
      simpa [Ascii.lower, Operator.name] using h
    simp only [hasKeyword, List.cons_append, List.nil_append, List.take_succ_cons, List.take_zero, ha]
    rfl

theorem operator_parse (name : List Char) (o : Operator) :
    Operator.parse (String.ofList name) = .ok o ↔ Ascii.lower name = o.name.toList := by
  cases o <;> simp only [Operator.parse, Ascii.same, Operator.name, String.toList_ofList] <;>
    split_ifs <;> simp_all [Ascii.lower]

theorem triplesText_bracket (body : List Char) (h : body.head? = some '[') :
    triplesText body = .ok (listText body) := by
  obtain ⟨rest, rfl⟩ := List.head?_eq_some_iff.mp h
  match rest with
  | [] => rfl
  | d :: more =>
    by_cases hd : d = '['
    · subst hd
      rfl
    · have hd' : '[' ≠ d := fun h => hd h.symm
      simp [triplesText, listText, hd, hd']

theorem triplesText_ok (body text : List Char) (h : triplesText body = .ok text) :
    body.head? = some '[' := by
  unfold triplesText at h
  split at h
  · rfl
  · rfl
  · simp at h

theorem listText_claimed (body : List Char) (h : body.head? = some '[') :
    NestedList.claims (String.ofList (listText body)) = true := by
  obtain ⟨rest, rfl⟩ := List.head?_eq_some_iff.mp h
  unfold listText
  split
  · next hp =>
    obtain ⟨more, hm⟩ := List.isPrefixOf_iff_prefix.mp hp
    simp [NestedList.claims, ← hm]
  · simp [NestedList.claims]

theorem nested_parse (body : List Char) (h : body.head? = some '[') :
    NestedList.parse (String.ofList (listText body)) =
      (decodeTriples (listText body)).map (.ofTriples .and) := by
  rw [NestedList.parse, if_pos (listText_claimed body h), Utf8.bytes, String.toList_ofList,
    decodeTriples]
  cases (Json.Decoder.list Triple.decoder).decode (Utf8.encode (listText body)) <;> rfl

theorem parse_written (s : String) (o : Operator) (body : List Char) (h : Written s o body) :
    parse s = (NestedList.parse (String.ofList (listText body))).map fun g => ⟨o, g.conditions⟩ := by
  obtain ⟨name, hn, hs⟩ := h.named
  have hk := operator_keyword name (body ++ [')']) o hn
  have hc := split_cut name body (name_ne_nil name o hn) (name_isWord name o hn) h.oneLine
  have ho := (operator_parse name o).mpr hn
  rw [nested_parse body h.bracket]
  simp only [parse, hs, hk, hc, triplesText_bracket body h.bracket, if_true]
  change (decodeTriples (listText body) >>= fun ts =>
    Operator.parse (String.ofList name) >>= fun o => .ok (Filter.ofTriples o ts)) = _
  rw [ho]
  cases decodeTriples (listText body) <;> rfl

theorem written_claims (s : String) (o : Operator) (body : List Char) (h : Written s o body) :
    claims s = true := by
  obtain ⟨name, hn, hs⟩ := h.named
  have hk := operator_keyword name (body ++ [')']) o hn
  have hc := split_cut name body (name_ne_nil name o hn) (name_isWord name o hn) h.oneLine
  obtain ⟨rest, rfl⟩ := List.head?_eq_some_iff.mp h.bracket
  rw [claims, hs, hk, hc]
  rfl

theorem written_parse (s : String) (f : Filter) (h : parse s = .ok f) :
    ∃ o body, Written s o body := by
  simp only [parse] at h
  split at h
  · split at h
    · simp at h
    · next name body hc =>
      obtain ⟨-, -, hb, hs⟩ := cut_split _ _ _ hc
      cases ht : triplesText body with
      | error e => simp [ht, bind, Except.bind] at h
      | ok text =>
        cases hd : decodeTriples text with
        | error e => simp [ht, hd, bind, Except.bind] at h
        | ok ts =>
          cases ho : Operator.parse (String.ofList name) with
          | error e => simp [ht, hd, ho, bind, Except.bind] at h
          | ok o =>
            exact ⟨o, body, ⟨name, (operator_parse name o).mp ho, hs⟩, triplesText_ok body text ht, hb⟩
  · simp at h

theorem nested_fault (body : List Char) (e : QueryError) (h : body.head? = some '[')
    (hf : NestedList.parse (String.ofList (listText body)) = .error e) :
    ∃ d, e = .decode d := by
  rw [nested_parse body h, decodeTriples] at hf
  cases hd : (Json.Decoder.list Triple.decoder).decode (Utf8.encode (listText body)) with
  | error d =>
    rw [hd] at hf
    exact ⟨d, (Except.error.inj hf).symm⟩
  | ok ts =>
    rw [hd] at hf
    cases hf

/-- The grammar of calls is exact. A text is parsed when it is written as a call whose body is
parsed as a nested list, and it then means these conditions under the operator named. A body that is
refused is refused with the nested list's own diagnostic. -/
theorem parse_iff_written (s : String) :
    (∀ f, parse s = .ok f ↔ ∃ o body g, Written s o body ∧
      NestedList.parse (String.ofList (listText body)) = .ok g ∧ f = ⟨o, g.conditions⟩) ∧
    ∀ o body e, Written s o body → NestedList.parse (String.ofList (listText body)) = .error e →
      parse s = .error e ∧ ∃ d, e = .decode d := by
  constructor
  · intro f
    constructor
    · intro h
      obtain ⟨o, body, hw⟩ := written_parse s f h
      rw [parse_written s o body hw] at h
      cases hg : NestedList.parse (String.ofList (listText body)) with
      | error e =>
        rw [hg] at h
        cases h
      | ok g =>
        rw [hg] at h
        exact ⟨o, body, g, hw, hg, (Except.ok.inj h).symm⟩
    · rintro ⟨o, body, g, hw, hg, rfl⟩
      rw [parse_written s o body hw, hg]
      rfl
  · intro o body e hw he
    refine ⟨?_, nested_fault body e hw.bracket he⟩
    rw [parse_written s o body hw, he]
    rfl

end RestGateway.Call

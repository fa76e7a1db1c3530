import RestGateway.Gateway.Entities
import RestGateway.Proofs.Attempts
import RestGateway.Proofs.Json.Documents
import RestGateway.Proofs.Json.LastPairs

/-!
# Fields of new and changed entities

What callers send as an object becomes a list of fields. No name and no value is lost or made up on
the way, and bodies that differ in blanks, escapes and the order of names only become the same
payload.
-/

set_option autoImplicit false

namespace RestGateway
open Json Json.Grammar Json.Reader

/-- Fields of an object whose pairs stand so in a text: one for each name, in the order of the names'
bytes, with what is kept of the value given last. -/
structure KeptFields (ps : List (String × Json)) (fields : List FieldValue) : Prop where
  ascending : fields.Pairwise fun f g => Utf8.bytes f.field < Utf8.bytes g.field
  names : ∀ name, (∃ f ∈ fields, f.field = name) ↔ ∃ p ∈ ps, p.1 = name
  kept : ∀ f ∈ fields, ∃ v, Members.Last ps f.field v ∧ Keeps v f.value

namespace Entities

variable {body : List UInt8} {members : Members} {ps : List (String × Json)}

theorem decodeBody_ok : decodeBody body = .ok members ↔
    ∃ ps, Document body (.object ps) ∧
      members = Members.ofPairs (ps.map fun p => (p.1, p.2.asRead)) := by
  have hdecoded : decodeBody body = .ok members ↔ Decoder.members.decode body = .ok members := by
    rw [decodeBody]
    cases Decoder.members.decode body <;> simp
  rw [hdecoded, decode_members_document]
  constructor
  · rintro ⟨d, hd, hread⟩
    cases d with
    | object ps =>
      rw [asRead_object] at hread
      cases hread
      exact ⟨ps, hd, rfl⟩
    | list items =>
      rw [asRead_list] at hread
      cases hread
    | _ => cases hread
  · rintro ⟨ps, hd, rfl⟩
    exact ⟨_, hd, asRead_object ps⟩

theorem decodeBody_document (h : decodeBody body = .ok members)
    (hd : Document body (.object ps)) :
    members = Members.ofPairs (ps.map fun p => (p.1, p.2.asRead)) := by
  have hps := decodeBody_ok.mpr ⟨ps, hd, rfl⟩
  exact Except.ok.inj (h.symm.trans hps)

end Entities

namespace FieldValue

def pair (f : FieldValue) : String × Json := (f.field, f.value)

theorem map_pair (members : Members) : (ofMembers members).map pair = members := by
  simp [ofMembers, pair, Function.comp_def]

theorem ofMembers_kept (ps : List (String × Json)) :
    KeptFields ps (ofMembers (Members.ofPairs (ps.map fun p => (p.1, p.2.asRead)))) where
  ascending := by
    rw [ofMembers, List.pairwise_map]
    exact (Members.ofPairs_pairwise _).imp fun h => Utf8.bytes_lt h
  names name := by
    have hnames := @Members.names_ofPairs (ps.map fun p => (p.1, p.2.asRead)) name
    simpa [ofMembers] using hnames
  kept f hf := by
    obtain ⟨m, hm, rfl⟩ := List.mem_map.mp hf
    obtain ⟨v, hv, hread⟩ := last_asRead hm
    exact ⟨v, hv, hread ▸ keeps_asRead v⟩

end FieldValue

open Entities in
/-- The bodies that are accepted are the texts of objects. The fields of a new entity and of a changed
one are the same list: one field for each name, in the order of the names' bytes, with the value
given last, and the object made of them is the one that was decoded. Objects that differ in the
order of different names only, however they are spelled, give the same payloads. -/
theorem make_keeps :
    (∀ body, (∃ members, decodeBody body = .ok members) ↔ ∃ ps, Document body (.object ps)) ∧
    (∀ body members ps entityType id,
      decodeBody body = .ok members → Document body (.object ps) →
      KeptFields ps (CreateQuery.make entityType members).fields ∧
      (UpdateQuery.make entityType id members).fields =
        (CreateQuery.make entityType members).fields ∧
      Members.ofPairs ((CreateQuery.make entityType members).fields.map FieldValue.pair) =
        members) ∧
    ∀ body body' members members' ps ps' entityType id,
      decodeBody body = .ok members → Document body (.object ps) →
      decodeBody body' = .ok members' → Document body' (.object ps') →
      Rearranged (.object ps) (.object ps') →
      (CreateQuery.make entityType members).toJson.bytes =
        (CreateQuery.make entityType members').toJson.bytes ∧
      (UpdateQuery.make entityType id members).toJson.bytes =
        (UpdateQuery.make entityType id members').toJson.bytes := by
  refine ⟨fun body => ?accepted, ?fields, ?same⟩
  case accepted =>
    constructor
    · rintro ⟨members, h⟩
      obtain ⟨ps, hd, -⟩ := decodeBody_ok.mp h
      exact ⟨ps, hd⟩
    · rintro ⟨ps, hd⟩
      exact ⟨_, decodeBody_ok.mpr ⟨ps, hd, rfl⟩⟩
  case fields =>
    intro body members ps entityType id h hd
    obtain rfl := decodeBody_document h hd
    refine ⟨FieldValue.ofMembers_kept ps, rfl, ?_⟩
    rw [CreateQuery.make, FieldValue.map_pair,
      Members.ofPairs_ascending _ (Members.ofPairs_pairwise _)]
  case same =>
    intro body body' members members' ps ps' entityType id h hd h' hd' hsame
    have hread := hsame.asRead_eq
    rw [asRead_object, asRead_object] at hread
    have hmembers : members = members' := by
      rw [decodeBody_document h hd, decodeBody_document h' hd']
      exact Json.object.inj hread
    rw [hmembers]
    exact ⟨rfl, rfl⟩

def doubled : String := "\x7b\"b\":0,\"a\":\x7b\"y\":[],\"x\":null\x7d,\"b\":true\x7d"

def respelled : String :=
  " \x7b\"a\": \x7b\"x\":null,\"y\":[]\x7d,\"\\u0062\":0 ,\"b\":true\x7d"

def doubledPairs : List (String × Json) :=
  [("b", .number (.int 0)), ("a", .object [("y", .list []), ("x", .null)]), ("b", .bool true)]

def respelledPairs : List (String × Json) :=
  [("a", .object [("x", .null), ("y", .list [])]), ("b", .number (.int 0)), ("b", .bool true)]

theorem shows_zero (n : Nat) : Shows .value n [0x30] (Json.number (.int 0)) :=
  .number (@Numeral.mk [0x30] [] (by decide) (.plain .none)) rfl

theorem shows_emptyList (n : Nat) : Shows .value (n + 1) [0x5B, 0x5D] (Json.list []) :=
  .list (.listEnd blank_nil)

theorem shows_member {n : Nat} {initial : Bool} {c w' v t : List UInt8} {a : Json}
    {ps : List (String × Json)} (name : String)
    (hname : (Utf8.bytes name).all (fun b => decide (Plain b)) = true) (hc : Comma initial c)
    (hw' : Blanks w') (hv : Shows .value n v a) (ht : Shows (.members false) n t ps) :
    Shows (.members initial) n
      (c ++ 0x22 :: (Utf8.bytes name ++ 0x22 :: 0x3A :: (w' ++ (v ++ t)))) ((name, a) :: ps) :=
  .member hc (content_plain hname) (Utf8.string_bytes name) blank_nil hw' hv ht

theorem comma_plain : Comma false [0x2C] := .later blank_nil blank_nil

theorem doubled_document : Document (Utf8.bytes doubled) (.object doubledPairs) := by
  have hinner := Shows.object (shows_member "y" (by decide) (.first blank_nil) blank_nil
    (shows_emptyList 124) (shows_member "x" (by decide) comma_plain blank_nil .null
      (.objectEnd blank_nil)))
  have hbody := Shows.object (shows_member "b" (by decide) (.first blank_nil) blank_nil
    (shows_zero 126) (shows_member "a" (by decide) comma_plain blank_nil hinner
      (shows_member "b" (by decide) comma_plain blank_nil .true (.objectEnd blank_nil))))
  exact ⟨[], _, [], by decide, blank_nil, hbody, blank_nil⟩

theorem respelled_document : Document (Utf8.bytes respelled) (.object respelledPairs) := by
  have hblank : Blanks [0x20] := List.all_eq_true.mp rfl
  have hquad : Quad [0x30, 0x30, 0x36, 0x32] (((0 * 16 + 0) * 16 + 6) * 16 + 2) :=
    .mk rfl rfl rfl rfl
  have hescape : Content [0x5C, 0x75, 0x30, 0x30, 0x36, 0x32] [0x62] :=
    Content.escaped (Escaped.unicode hquad (by decide)) .done
  have hinner := Shows.object (shows_member "x" (by decide) (.first blank_nil) blank_nil .null
    (shows_member "y" (by decide) comma_plain blank_nil (shows_emptyList 124)
      (.objectEnd blank_nil)))
  have hbody := Shows.object (shows_member "a" (by decide) (.first blank_nil) hblank hinner
    (.member comma_plain hescape rfl blank_nil blank_nil (shows_zero 126)
      (shows_member "b" (by decide) (.later hblank blank_nil) blank_nil .true
        (.objectEnd blank_nil))))
  exact ⟨[0x20], _, [], by decide, hblank, hbody, blank_nil⟩

theorem respelled_rearranged : Rearranged (.object doubledPairs) (.object respelledPairs) := by
  have hinner : Rearranged (.object [("y", .list []), ("x", .null)])
      (.object [("x", .null), ("y", .list [])]) := .swap [] [] _ _ (by decide)
  have hmember := Rearranged.member [("b", .number (.int 0))] [("b", .bool true)] "a" hinner
  exact hmember.trans (.swap [] [("b", .bool true)] _ _ (by decide))

theorem make_keeps_respelled :
    (Document (Utf8.bytes doubled) (.object doubledPairs) ∧
      Document (Utf8.bytes respelled) (.object respelledPairs) ∧
      Rearranged (.object doubledPairs) (.object respelledPairs)) ∧
    ∃ members members', Entities.decodeBody (Utf8.bytes doubled) = .ok members ∧
      Entities.decodeBody (Utf8.bytes respelled) = .ok members' ∧
      KeptFields doubledPairs (CreateQuery.make "Shot" members).fields ∧
      (CreateQuery.make "Shot" members).toJson.bytes =
        (CreateQuery.make "Shot" members').toJson.bytes ∧
      (UpdateQuery.make "Shot" 7 members).toJson.bytes =
        (UpdateQuery.make "Shot" 7 members').toJson.bytes := by
  obtain ⟨haccepted, hfields, hsame⟩ := make_keeps
  obtain ⟨members, h⟩ := (haccepted _).mpr ⟨_, doubled_document⟩
  obtain ⟨members', h'⟩ := (haccepted _).mpr ⟨_, respelled_document⟩
  exact ⟨⟨doubled_document, respelled_document, respelled_rearranged⟩, members, members', h, h',
    (hfields _ _ _ "Shot" 7 h doubled_document).1,
    hsame _ _ _ _ _ _ "Shot" 7 h doubled_document h' respelled_document respelled_rearranged⟩

end RestGateway

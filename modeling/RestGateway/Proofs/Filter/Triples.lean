import RestGateway.Filter.Basic
import RestGateway.Proofs.Json.Mirror

/-!
# Triples streamed and triples taken from a value

A list of triples is read from a text in two ways: element by element with its types, or as a value
that is then taken apart. Both accept the lists that `Triple.listToJson` writes and no others, so
they agree on every text.
-/

set_option autoImplicit false

namespace RestGateway.Triple
open Json Json.Reader

def toJson (t : Triple) : Json := .list [.string t.path, .string t.relation, t.value]

def listToJson (ts : List Triple) : Json := .list (ts.map toJson)

theorem nextString_ok {found : Nat} {items rest : List Json} {s : String}
    (h : nextString found items = .ok (s, rest)) : items = .string s :: rest := by
  unfold nextString at h
  split at h
  · cases h
  · cases h
    rfl
  · cases h

theorem ofJson_iff (v : Json) (t : Triple) : ofJson v = .ok t ↔ v = t.toJson := by
  constructor
  · intro h
    unfold ofJson at h
    split at h
    · next items =>
      cases hp : nextString 0 items with
      | error e => simp [hp, bind, Except.bind] at h
      | ok p =>
        obtain ⟨path, items'⟩ := p
        cases hr : nextString 1 items' with
        | error e => simp [hp, hr, bind, Except.bind] at h
        | ok r =>
          obtain ⟨relation, items''⟩ := r
          obtain rfl := nextString_ok hp
          obtain rfl := nextString_ok hr
          match items'' with
          | [] => cases h
          | [value] =>
            cases h
            rfl
          | a :: b :: more => cases h
    · cases h
  · rintro rfl
    rfl

theorem mapM_toJson (ts : List Triple) : (ts.map toJson).mapM ofJson = .ok ts := by
  induction ts with
  | nil => rfl
  | cons t ts ih =>
    rw [List.map_cons, List.mapM_cons, (ofJson_iff _ t).mpr rfl, ih]
    rfl

theorem mapM_ofJson (items : List Json) (ts : List Triple) :
    items.mapM ofJson = .ok ts ↔ items = ts.map toJson := by
  constructor
  · intro h
    induction items generalizing ts with
    | nil =>
      cases h
      rfl
    | cons v items ih =>
      rw [List.mapM_cons] at h
      cases hv : ofJson v with
      | error e => simp [hv, bind, Except.bind] at h
      | ok t =>
        cases hm : items.mapM ofJson with
        | error e => simp [hv, hm, bind, Except.bind] at h
        | ok ts' =>
          simp only [hv, hm] at h
          cases h
          rw [List.map_cons, (ofJson_iff v t).mp hv, ih ts' hm]
  · rintro rfl
    exact mapM_toJson ts

theorem listOfJson_iff (v : Json) (ts : List Triple) :
    listOfJson v = .ok ts ↔ v = listToJson ts := by
  cases v with
  | list items => simp [listOfJson, listToJson, mapM_ofJson]
  | _ => simp [listOfJson, listToJson]

theorem mirrors_triple (depth : Nat) :
    Mirrors (Triple.decoder depth) (Reader.value depth) toJson := by
  intro bs t rest
  rw [toJson, value_list_iff, Triple.decoder, tuple_iff]
  constructor
  · rintro ⟨inner, more, rfl, hb, h⟩
    obtain ⟨m1, path, b1, he1, hp, h⟩ := elements_required.mp h
    obtain ⟨m2, relation, b2, he2, hr, h⟩ := elements_required.mp h
    obtain ⟨m3, v, b3, he3, hv, h⟩ := elements_required.mp h
    obtain ⟨rfl, hc⟩ := elements_nil.mp h
    refine ⟨inner, more, rfl, hb, .next he1 ((mirrors_text _ inner _ _ _).mp hp) ?_⟩
    exact .next he2 ((mirrors_text _ inner _ _ _).mp hr) (.next he3 hv (.close hc))
  · rintro ⟨inner, more, rfl, hb, hi⟩
    refine ⟨inner, more, rfl, hb, ?_⟩
    cases hi with
    | next he1 hp hi =>
      cases hi with
      | next he2 hr hi =>
        cases hi with
        | next he3 hv hi =>
          cases hi with
          | close hc =>
            have hp' := (mirrors_text "a string" inner _ _ _).mpr hp
            have hr' := (mirrors_text "a string" inner _ _ _).mpr hr
            refine elements_required.mpr ⟨_, _, _, he1, hp', elements_required.mpr ?_⟩
            refine ⟨_, _, _, he2, hr', elements_required.mpr ⟨_, _, _, he3, hv, ?_⟩⟩
            exact elements_nil.mpr ⟨rfl, hc⟩

theorem mirrors_triples (depth : Nat) :
    Mirrors (Decoder.list Triple.decoder depth) (Reader.value depth) listToJson :=
  mirrors_list mirrors_triple depth

theorem decode_triples {input : List UInt8} {ts : List Triple} :
    (Decoder.list Triple.decoder).decode input = .ok ts ↔
      ∃ w, Reader.value Decoder.levels input = .ok (listToJson ts, w) ∧ Blanks w := by
  simp only [decode_ok, mirrors_triples Decoder.levels input ts]

end RestGateway.Triple

import RestGateway.Proofs.Json.Meaning

/-!
# Documents

A text shows a value as it stands in it: the pairs of every object in the order of the text, names
that occur twice included. What is read keeps of each object the pair given last under a name, the
names in ascending order. So blanks, escapes and the order of different names, at any depth, are
lost, and nothing else is.
-/

set_option autoImplicit false

namespace RestGateway.Json.Grammar
open Reader

/-- A text that opens at most `n` lists and objects at once, with what stands in it. -/
inductive Shows : (k : Kind) → Nat → List UInt8 → k.Result → Prop where
  | null {n : Nat} : Shows .value n (0x6E :: restOfNull) Json.null
  | true {n : Nat} : Shows .value n (0x74 :: restOfTrue) (Json.bool Bool.true)
  | false {n : Nat} : Shows .value n (0x66 :: restOfFalse) (Json.bool Bool.false)
  | number {n : Nat} {t : List UInt8} {x : Number} :
      Numeral t → Reader.number Bool.false t = .ok (x, []) → Shows .value n t (Json.number x)
  | negative {n : Nat} {t : List UInt8} {x : Number} :
      Numeral t → Reader.number Bool.true t = .ok (x, []) →
      Shows .value n (0x2D :: t) (Json.number x)
  | string {n : Nat} {t u : List UInt8} {s : String} :
      Content t u → Utf8.string? u = some s →
      Shows .value n (0x22 :: (t ++ [0x22])) (Json.string s)
  | list {n : Nat} {t : List UInt8} {vs : List Json} :
      Shows (.items Bool.true) n t vs → Shows .value (n + 1) (0x5B :: t) (Json.list vs)
  | object {n : Nat} {t : List UInt8} {ps : List (String × Json)} :
      Shows (.members Bool.true) n t ps → Shows .value (n + 1) (0x7B :: t) (Json.object ps)
  | listEnd {n : Nat} {initial : Bool} {w : List UInt8} :
      Blanks w → Shows (.items initial) n (w ++ [0x5D]) ([] : List Json)
  | item {n : Nat} {initial : Bool} {c v t : List UInt8} {a : Json} {vs : List Json} :
      Comma initial c → Shows .value n v a → Shows (.items Bool.false) n t vs →
      Shows (.items initial) n (c ++ (v ++ t)) (a :: vs)
  | objectEnd {n : Nat} {initial : Bool} {w : List UInt8} :
      Blanks w → Shows (.members initial) n (w ++ [0x7D]) ([] : List (String × Json))
  | member {n : Nat} {initial : Bool} {c k u w w' v t : List UInt8} {name : String} {a : Json}
      {ps : List (String × Json)} :
      Comma initial c → Content k u → Utf8.string? u = some name → Blanks w → Blanks w' →
      Shows .value n v a → Shows (.members Bool.false) n t ps →
      Shows (.members initial) n
        (c ++ 0x22 :: (k ++ 0x22 :: (w ++ 0x3A :: (w' ++ (v ++ t))))) ((name, a) :: ps)

/-- One value with blanks around it, as it stands in the text. It opens no more levels than are
read. -/
def Document (body : List UInt8) (v : Json) : Prop :=
  ∃ w t w', body = w ++ (t ++ w') ∧ Blanks w ∧ Shows .value Decoder.levels t v ∧ Blanks w'

def Kind.asRead : (k : Kind) → k.Result → k.Result
  | .value => Json.asRead
  | .items _ => List.map Json.asRead
  | .members _ => List.map fun m => (m.1, m.2.asRead)

theorem Shows.spells {k : Kind} {n : Nat} {t : List UInt8} {r : k.Result} (h : Shows k n t r) :
    Spells k n t (k.asRead r) := by
  induction h with
  | null => exact .null
  | true => exact .true
  | false => exact .false
  | number ht hx => exact .number ht hx
  | negative ht hx => exact .negative ht hx
  | string ht hu => exact .string ht hu
  | @list n t vs _ ih =>
    have hvs : Kind.asRead .value (Json.list vs) = Json.list (vs.map Json.asRead) := asRead_list vs
    rw [hvs]
    exact .list ih
  | @object n t ps _ ih =>
    have hps : Kind.asRead .value (Json.object ps) =
        Json.object (Members.ofPairs (ps.map fun m => (m.1, m.2.asRead))) := asRead_object ps
    rw [hps]
    exact .object ih
  | listEnd hw => exact .listEnd hw
  | item hc _ _ ihv iht => exact .item hc ihv iht
  | objectEnd hw => exact .objectEnd hw
  | member hc hk hu hw hw' _ _ ihv iht => exact .member hc hk hu hw hw' ihv iht

/-- Whatever is read stands in the text in some order. -/
theorem Spells.shown {k : Kind} {n : Nat} {t : List UInt8} {r : k.Result} (h : Spells k n t r) :
    ∃ d, Shows k n t d ∧ k.asRead d = r := by
  induction h with
  | null => exact ⟨_, .null, rfl⟩
  | true => exact ⟨_, .true, rfl⟩
  | false => exact ⟨_, .false, rfl⟩
  | number ht hx => exact ⟨_, .number ht hx, rfl⟩
  | negative ht hx => exact ⟨_, .negative ht hx, rfl⟩
  | string ht hu => exact ⟨_, .string ht hu, rfl⟩
  | list _ ih =>
    obtain ⟨vs, hvs, rfl⟩ := ih
    exact ⟨_, .list hvs, asRead_list vs⟩
  | object _ ih =>
    obtain ⟨ps, hps, rfl⟩ := ih
    exact ⟨_, .object hps, asRead_object ps⟩
  | listEnd hw => exact ⟨_, .listEnd hw, rfl⟩
  | item hc _ _ ihv iht =>
    obtain ⟨v, hv, rfl⟩ := ihv
    obtain ⟨vs, hvs, rfl⟩ := iht
    exact ⟨_, .item hc hv hvs, rfl⟩
  | objectEnd hw => exact ⟨_, .objectEnd hw, rfl⟩
  | member hc hk hu hw hw' _ _ ihv iht =>
    obtain ⟨v, hv, rfl⟩ := ihv
    obtain ⟨ps, hps, rfl⟩ := iht
    exact ⟨_, .member hc hk hu hw hw' hv hps, rfl⟩

/-- The texts that are read are the documents, and what is read depends on what stands in them. -/
theorem decode_document {body : List UInt8} {v : Json} :
    Decoder.value.decode body = .ok v ↔ ∃ d, Document body d ∧ d.asRead = v := by
  rw [decode_ok]
  constructor
  · rintro ⟨rest, h, hrest⟩
    obtain ⟨w, t, hw, rfl, ht⟩ := (value_iff (blanks_boundary hrest)).mp h
    obtain ⟨d, hd, hv⟩ := ht.shown
    exact ⟨d, ⟨w, t, rest, rfl, hw, hd, hrest⟩, hv⟩
  · rintro ⟨d, ⟨w, t, rest, rfl, hw, ht, hrest⟩, rfl⟩
    exact ⟨rest, (value_iff (blanks_boundary hrest)).mpr ⟨w, t, hw, rfl, ht.spells⟩, hrest⟩

theorem decode_members_document {body : List UInt8} {ms : Members} :
    Decoder.members.decode body = .ok ms ↔
      ∃ d, Document body d ∧ d.asRead = .object ms := by
  rw [← decode_document, decode_ok, decode_ok]
  exact exists_congr fun rest => and_congr_left fun _ => mirrors_members Decoder.levels body ms rest

end RestGateway.Json.Grammar

import RestGateway.Proofs.Json.Contents
import RestGateway.Proofs.Json.Mirror
import RestGateway.Proofs.Json.Numbers
import RestGateway.Proofs.Json.Strings

/-!
# Values are read as they are written

Compact text gives back the value it was written from, its members put in order, whatever follows
the text, as long as no float occurs in the value and the levels it opens are allowed. A value whose
members are in order already is given back unchanged.
-/

set_option autoImplicit false

namespace RestGateway

namespace Json

mutual

/-- Values that their text gives back: no float occurs, integers have 64 bits with or without a
sign, and every object has its members in ascending order of names. -/
def isExact : Json → Bool
  | .null => true
  | .bool _ => true
  | .string _ => true
  | .number (.int n) => Word.least ≤ n && n < (UInt64.size : Int)
  | .number (.float _) => false
  | .list items => isExactItems items
  | .object members =>
    decide (members.Pairwise fun a b => a.1 < b.1) && isExactMembers members

def isExactItems : List Json → Bool
  | [] => true
  | v :: vs => isExact v && isExactItems vs

def isExactMembers : List (String × Json) → Bool
  | [] => true
  | (_, v) :: ms => isExact v && isExactMembers ms

end

mutual

def nesting : Json → Nat
  | .list items => nestingOfItems items + 1
  | .object members => nestingOfMembers members + 1
  | _ => 0

def nestingOfItems : List Json → Nat
  | [] => 0
  | v :: vs => max (nesting v) (nestingOfItems vs)

def nestingOfMembers : List (String × Json) → Nat
  | [] => 0
  | (_, v) :: ms => max (nesting v) (nestingOfMembers ms)

end

def laterItems : List Json → List Char
  | [] => []
  | v :: vs => ',' :: (chars v ++ laterItems vs)

def laterMembers : List (String × Json) → List Char
  | [] => []
  | (k, v) :: ms => ',' :: (quote k ++ ':' :: (chars v ++ laterMembers ms))

theorem isExactItems_iff (items : List Json) :
    isExactItems items = true ↔ ∀ v ∈ items, v.isExact = true := by
  induction items with
  | nil => simp [isExactItems]
  | cons v vs ih => simp [isExactItems, ih]

theorem isExactMembers_iff (members : List (String × Json)) :
    isExactMembers members = true ↔ ∀ m ∈ members, m.2.isExact = true := by
  induction members with
  | nil => simp [isExactMembers]
  | cons m ms ih => simp [isExactMembers, ih]

theorem isExact_iff (v : Json) :
    v.isExact = true ↔ v.isFloatFree = true ∧ v.isProper = true := by
  unfold isFloatFree isProper
  induction v using induct with
  | null => simp [isExact]
  | bool b => simp [isExact]
  | number n => cases n <;> simp [isExact, Number.isInteger, Number.fits]
  | string s => simp [isExact]
  | list items ih =>
    rw [isExact, isExactItems_iff, every_list, every_list, ← forall₂_and]
    exact forall₂_congr ih
  | object members ih =>
    rw [isExact, Bool.and_eq_true, isExactMembers_iff, decide_eq_true_iff, every_object,
      every_object, Members.ascending_iff]
    constructor
    · rintro ⟨ha, hm⟩
      exact ⟨⟨rfl, fun m h => ((ih m h).mp (hm m h)).1⟩, ha, fun m h => ((ih m h).mp (hm m h)).2⟩
    · rintro ⟨⟨-, hf⟩, ha, hp⟩
      exact ⟨ha, fun m h => (ih m h).mpr ⟨hf m h, hp m h⟩⟩

theorem nestingOfItems_le (items : List Json) (depth : Nat) :
    nestingOfItems items ≤ depth ↔ ∀ v ∈ items, v.nesting ≤ depth := by
  induction items with
  | nil => simp [nestingOfItems]
  | cons v vs ih => simp [nestingOfItems, ih]

theorem nestingOfMembers_le (members : List (String × Json)) (depth : Nat) :
    nestingOfMembers members ≤ depth ↔ ∀ m ∈ members, m.2.nesting ≤ depth := by
  induction members with
  | nil => simp [nestingOfMembers]
  | cons m ms ih => simp [nestingOfMembers, ih]

theorem list_nesting {items : List Json} {depth : Nat} (h : (Json.list items).nesting ≤ depth) :
    ∃ inner, depth = inner + 1 ∧ ∀ v ∈ items, v.nesting ≤ inner := by
  cases depth with
  | zero => cases h
  | succ inner =>
    exact ⟨inner, rfl, (nestingOfItems_le items inner).mp (Nat.le_of_succ_le_succ h)⟩

theorem object_nesting {members : List (String × Json)} {depth : Nat}
    (h : (Json.object members).nesting ≤ depth) :
    ∃ inner, depth = inner + 1 ∧ ∀ m ∈ members, m.2.nesting ≤ inner := by
  cases depth with
  | zero => cases h
  | succ inner =>
    exact ⟨inner, rfl, (nestingOfMembers_le members inner).mp (Nat.le_of_succ_le_succ h)⟩

theorem charsOfItems_cons (v : Json) (vs : List Json) :
    charsOfItems (v :: vs) = chars v ++ laterItems vs := by
  induction vs generalizing v with
  | nil => simp [charsOfItems, laterItems]
  | cons w vs ih => rw [charsOfItems, ih, laterItems]

theorem charsOfMembers_cons (k : String) (v : Json) (ms : List (String × Json)) :
    charsOfMembers ((k, v) :: ms) = quote k ++ ':' :: (chars v ++ laterMembers ms) := by
  induction ms generalizing k v with
  | nil => simp [charsOfMembers, laterMembers]
  | cons m ms ih =>
    obtain ⟨l, w⟩ := m
    rw [charsOfMembers, ih, laterMembers]
    simp

end Json

namespace Json.Reader

theorem boundary_items (vs : List Json) (s : List UInt8) :
    Boundary (Utf8.encode (laterItems vs) ++ 0x5D :: s) := by
  cases vs with
  | nil => exact boundary_cons 0x5D s (by decide) (by decide) (by decide)
  | cons v vs => exact boundary_cons 0x2C _ (by decide) (by decide) (by decide)

theorem boundary_members (ms : List (String × Json)) (s : List UInt8) :
    Boundary (Utf8.encode (laterMembers ms) ++ 0x7D :: s) := by
  cases ms with
  | nil => exact boundary_cons 0x7D s (by decide) (by decide) (by decide)
  | cons m ms => exact boundary_cons 0x2C _ (by decide) (by decide) (by decide)

theorem value_null (depth : Nat) (s : List UInt8) :
    value depth (0x6E :: (restOfNull ++ s)) = .ok (.null, s) := by
  rw [value_scalar (by decide) (by decide) (by decide) rfl, bind_ok _ (drop_cons _ _),
    bind_ok _ (keyword_append restOfNull s)]
  rfl

theorem value_true (depth : Nat) (s : List UInt8) :
    value depth (0x74 :: (restOfTrue ++ s)) = .ok (.bool true, s) := by
  rw [value_scalar (by decide) (by decide) (by decide) rfl, bind_ok _ (drop_cons _ _),
    bind_ok _ (keyword_append restOfTrue s)]
  rfl

theorem value_false (depth : Nat) (s : List UInt8) :
    value depth (0x66 :: (restOfFalse ++ s)) = .ok (.bool false, s) := by
  rw [value_scalar (by decide) (by decide) (by decide) rfl, bind_ok _ (drop_cons _ _),
    bind_ok _ (keyword_append restOfFalse s)]
  rfl

theorem value_string (depth : Nat) (x : String) (s : List UInt8) :
    value depth (Utf8.encode (quote x) ++ s) = .ok (.string x, s) := by
  rw [encode_quote, value_quote, bind_ok _ (string_written x s)]
  rfl

theorem value_natural (depth : Nat) (n : Nat) (s : List UInt8) (hn : n < UInt64.size)
    (hs : Boundary s) :
    value depth (Utf8.encode (Nat.toDigits 10 n) ++ s) = .ok (.number (.int n), s) := by
  have hd := toDigits_digit n
  have hr := number_digits false n s hn hs
  rw [encode_digits _ hd] at hr ⊢
  obtain ⟨c, cs, hcs⟩ := List.exists_cons_of_ne_nil (Nat.toDigits_ne_nil (n := n) (b := 10))
  rw [hcs] at hr ⊢
  simp only [List.map_cons, List.cons_append] at hr ⊢
  rw [value_digit (isDigit_digitByte c (hd c (by simp [hcs]))), bind_ok _ hr]
  rfl

theorem value_negative (depth : Nat) (n : Nat) (s : List UInt8) (h0 : 0 < n)
    (hn : Word.least ≤ -(n : Int)) (hs : Boundary s) :
    value depth (0x2D :: (Utf8.encode (Nat.toDigits 10 n) ++ s)) =
      .ok (.number (.int (-n)), s) := by
  have hw : n < UInt64.size := by
    simp only [Word.least, UInt64.size] at *
    omega
  have hi : integer true n = .int (-n) := by
    rw [integer, if_pos rfl, if_neg (by omega)]
  rw [value_minus, bind_ok _ (number_digits true n s hw hs), hi]
  rfl

theorem value_int (depth : Nat) (n : Int) (s : List UInt8) (hl : Word.least ≤ n)
    (hn : n < (UInt64.size : Int)) (hs : Boundary s) :
    value depth (Utf8.encode (Number.integerText n) ++ s) = .ok (.number (.int n), s) := by
  unfold Number.integerText
  split_ifs with h
  · have hm : String.utf8EncodeChar '-' = [0x2D] := rfl
    have hneg : -(n.natAbs : Int) = n := by omega
    have hv := value_negative depth n.natAbs s (by omega) (by omega) hs
    rw [hneg] at hv
    rw [Utf8.encode_cons, hm]
    exact hv
  · have hpos : (n.natAbs : Int) = n := by omega
    have hv := value_natural depth n.natAbs s (by omega) hs
    rwa [hpos] at hv

theorem encode_list (v : Json) (vs : List Json) (s : List UInt8) :
    Utf8.encode (chars (.list (v :: vs))) ++ s =
      0x5B :: (Utf8.encode v.chars ++ (Utf8.encode (laterItems vs) ++ 0x5D :: s)) := by
  have ho : String.utf8EncodeChar '[' = [0x5B] := rfl
  have hc : String.utf8EncodeChar ']' = [0x5D] := rfl
  simp [chars, charsOfItems_cons, ho, hc]

theorem encode_laterItems (v : Json) (vs : List Json) (s : List UInt8) :
    Utf8.encode (laterItems (v :: vs)) ++ s =
      0x2C :: (Utf8.encode v.chars ++ (Utf8.encode (laterItems vs) ++ s)) := by
  have hm : String.utf8EncodeChar ',' = [0x2C] := rfl
  simp [laterItems, hm]

def nameBytes (k : String) : List UInt8 :=
  Utf8.encode (k.toList.flatMap Json.escape) ++ [0x22, 0x3A]

theorem encode_name (k : String) (cs : List Char) (s : List UInt8) :
    Utf8.encode (quote k ++ ':' :: cs) ++ s = 0x22 :: (nameBytes k ++ (Utf8.encode cs ++ s)) := by
  have hq : String.utf8EncodeChar ':' = [0x3A] := rfl
  rw [Utf8.encode_append, List.append_assoc, encode_quote]
  simp [nameBytes, hq]

theorem string_name (k : String) (bs : List UInt8) :
    string (nameBytes k ++ bs) = .ok (k, 0x3A :: bs) := by
  have hw := string_written k (0x3A :: bs)
  simpa [nameBytes] using hw

theorem named_written {α : Type} {item : Reader α} {k name : String} {a : α}
    {bs more : List UInt8} :
    Named item (nameBytes k ++ bs) name a more ↔ name = k ∧ item bs = .ok (a, more) := by
  have hs := string_name k bs
  have hc : colon (0x3A :: bs) = .ok ((), bs) := colon_blank [] bs blank_nil
  constructor
  · rintro ⟨mid, mid', h1, h2, h3⟩
    rw [hs] at h1
    cases h1
    rw [hc] at h2
    cases h2
    exact ⟨rfl, h3⟩
  · rintro ⟨rfl, h⟩
    exact ⟨_, _, hs, hc, h⟩

theorem encode_object (k : String) (v : Json) (ms : List (String × Json)) (s : List UInt8) :
    Utf8.encode (chars (.object ((k, v) :: ms))) ++ s =
      0x7B :: 0x22 :: (nameBytes k ++ (Utf8.encode v.chars ++
        (Utf8.encode (laterMembers ms) ++ 0x7D :: s))) := by
  have ho : String.utf8EncodeChar '{' = [0x7B] := rfl
  have hc : String.utf8EncodeChar '}' = [0x7D] := rfl
  have hn := encode_name k (chars v ++ laterMembers ms) (0x7D :: s)
  rw [Utf8.encode_append (chars v), List.append_assoc (Utf8.encode (chars v))] at hn
  rw [← hn]
  simp [chars, charsOfMembers_cons, ho, hc]

theorem encode_laterMembers (k : String) (v : Json) (ms : List (String × Json)) (s : List UInt8) :
    Utf8.encode (laterMembers ((k, v) :: ms)) ++ s =
      0x2C :: 0x22 :: (nameBytes k ++ (Utf8.encode v.chars ++
        (Utf8.encode (laterMembers ms) ++ s))) := by
  have hm : String.utf8EncodeChar ',' = [0x2C] := rfl
  have hn := encode_name k (chars v ++ laterMembers ms) s
  rw [Utf8.encode_append (chars v), List.append_assoc (Utf8.encode (chars v))] at hn
  rw [← hn]
  simp [laterMembers, hm]

/-- `r` reads `a` from the text of `v`, whatever follows it. -/
def Reads {α : Type} (r : Reader α) (v : Json) (a : α) : Prop :=
  ∀ s, Boundary s → r (Utf8.encode v.chars ++ s) = .ok (a, s)

theorem items_read (items : List Json) (depth : Nat) (s : List UInt8)
    (h : ∀ v ∈ items, Reads (value depth) v v.asRead) :
    Items (value depth) false (Utf8.encode (laterItems items) ++ 0x5D :: s) (items.map asRead)
      s := by
  induction items with
  | nil => exact (items_close blank_nil).mpr ⟨rfl, rfl⟩
  | cons v vs ih =>
    obtain ⟨hv, hvs⟩ := List.forall_mem_cons.mp h
    rw [encode_laterItems]
    exact (items_later blank_nil).mpr ⟨_, _, _, rfl, hv _ (boundary_items vs s), ih hvs⟩

theorem members_read (members : List (String × Json)) (depth : Nat) (s : List UInt8)
    (h : ∀ m ∈ members, Reads (value depth) m.2 m.2.asRead) :
    Pairs (value depth) false (Utf8.encode (laterMembers members) ++ 0x7D :: s)
      (members.map fun m => (m.1, m.2.asRead)) s := by
  induction members with
  | nil => exact (pairs_close blank_nil).mpr ⟨rfl, rfl⟩
  | cons m ms ih =>
    obtain ⟨hm, hms⟩ := List.forall_mem_cons.mp h
    have hn := named_written.mpr ⟨Eq.refl m.1, hm _ (boundary_members ms s)⟩
    rw [encode_laterMembers]
    exact (pairs_later blank_nil blank_nil).mpr ⟨_, _, _, _, rfl, hn, ih hms⟩

theorem list_read (items : List Json) (depth : Nat)
    (h : ∀ v ∈ items, Reads (value depth) v v.asRead) :
    Reads (value (depth + 1)) (.list items) (Json.list items).asRead := by
  intro s _
  rw [asRead_list]
  cases items with
  | nil => exact value_list.mpr ⟨[], rfl, (items_close blank_nil).mpr ⟨rfl, rfl⟩⟩
  | cons v vs =>
    obtain ⟨hv, hvs⟩ := List.forall_mem_cons.mp h
    have hr := hv _ (boundary_items vs s)
    rw [encode_list]
    exact value_list.mpr ⟨_, rfl, items_first.mpr (Or.inr ⟨_, _, _, rfl, hr,
      items_read vs depth s hvs⟩)⟩

theorem object_read (members : List (String × Json)) (depth : Nat)
    (h : ∀ m ∈ members, Reads (value depth) m.2 m.2.asRead) :
    Reads (value (depth + 1)) (.object members) (Json.object members).asRead := by
  intro s _
  rw [asRead_object]
  cases members with
  | nil => exact value_object.mpr ⟨[], rfl, (pairs_close blank_nil).mpr ⟨rfl, rfl⟩⟩
  | cons m ms =>
    obtain ⟨hm, hms⟩ := List.forall_mem_cons.mp h
    have hn := named_written.mpr ⟨Eq.refl m.1, hm _ (boundary_members ms s)⟩
    rw [encode_object]
    exact value_object.mpr ⟨_, rfl, (pairs_first blank_nil).mpr ⟨_, _, _, _, rfl, hn,
      members_read ms depth s hms⟩⟩

/-- What is written is read, its members put in order. -/
theorem value_read (v : Json) (depth : Nat) (hf : v.isFloatFree = true) (hw : v.fits = true)
    (hd : v.nesting ≤ depth) : Reads (value depth) v v.asRead := by
  unfold isFloatFree at hf
  unfold fits at hw
  induction v using induct generalizing depth with
  | null => exact fun s _ => value_null depth s
  | bool b =>
    cases b
    · exact fun s _ => value_false depth s
    · exact fun s _ => value_true depth s
  | number n =>
    cases n with
    | int n =>
      obtain ⟨hl, hn⟩ := (Number.fits_int n).mp hw
      exact fun s hs => value_int depth n s hl hn hs
    | float x => cases hf
  | string x => exact fun s _ => value_string depth x s
  | list items ih =>
    rw [every_list] at hf hw
    obtain ⟨inner, rfl, hn⟩ := list_nesting hd
    exact list_read items inner fun v hv => ih v hv inner (hf v hv) (hw v hv) (hn v hv)
  | object members ih =>
    rw [every_object] at hf hw
    obtain ⟨inner, rfl, hn⟩ := object_nesting hd
    exact object_read members inner fun m hm =>
      ih m hm inner (hf.2 m hm) (hw.2 m hm) (hn m hm)

theorem reads_value {v : Json} {depth : Nat} (hp : v.isProper = true)
    (hf : v.isFloatFree = true) (hn : v.nesting ≤ depth) : Reads (value depth) v v := by
  have h := value_read v depth hf (isProper_fits v hp) hn
  rwa [asRead_proper v hp] at h

theorem value_written (v : Json) (depth : Nat) (s : List UInt8) (hx : v.isExact = true)
    (hd : v.nesting ≤ depth) (hs : Boundary s) :
    value depth (Utf8.encode v.chars ++ s) = .ok (v, s) := by
  obtain ⟨hf, hp⟩ := (isExact_iff v).mp hx
  exact reads_value hp hf hd s hs

theorem bytes_text (v : Json) : Utf8.bytes v.text = Utf8.encode v.chars := by
  rw [Utf8.bytes, Json.text, String.toList_ofList]

theorem decode_reads {α : Type} {d : Decoder α} {v : Json} {a : α}
    (h : Reads (d Decoder.levels) v a) : d.decode (Utf8.bytes v.text) = .ok a := by
  have hr := h [] boundary_nil
  rw [List.append_nil, ← bytes_text] at hr
  exact decode_ok.mpr ⟨[], hr, blank_nil⟩

theorem asRead_of_text {v w : Json} (hv : v.isFloatFree = true ∧ v.fits = true)
    (hw : w.isFloatFree = true ∧ w.fits = true) (h : v.text = w.text) : v.asRead = w.asRead := by
  have hb : Utf8.encode v.chars = Utf8.encode w.chars := by rw [← bytes_text, h, bytes_text]
  have h1 := value_read v (max v.nesting w.nesting) hv.1 hv.2 (le_max_left _ _) [] boundary_nil
  have h2 := value_read w (max v.nesting w.nesting) hw.1 hw.2 (le_max_right _ _) [] boundary_nil
  rw [hb, h2] at h1
  exact (Prod.mk.inj (Except.ok.inj h1)).1.symm

end Json.Reader

namespace Json

theorem escape_line (c : Char) : '\n' ∉ escape c := by
  have hd : ∀ n < 0x20, '\n' ∉ Ascii.digits 16 4 n := by decide
  have hu (h : c.toNat < 0x20) : '\n' ∉ '\\' :: 'u' :: Ascii.digits 16 4 c.toNat := by
    simpa using hd c.toNat h
  unfold escape
  split_ifs with h1 h2 h3 h4 h5 h6 h7 h8
  · simp
  · simp
  · simp
  · simp
  · simp
  · simp
  · simp
  · exact hu h8
  · simpa [eq_comm] using h5

theorem quote_line (s : String) : '\n' ∉ quote s := by
  simp [quote, escape_line]

theorem integer_line (n : Int) : '\n' ∉ Number.integerText n := by
  have hd (m : Nat) : '\n' ∉ Nat.toDigits 10 m := fun h => by
    have := toDigits_digit m _ h
    simp at this
  unfold Number.integerText
  split_ifs <;> simp [hd]

mutual

theorem chars_line (v : Json) (hx : v.isExact = true) : '\n' ∉ v.chars := by
  match v with
  | .null => simp [chars]
  | .bool true => simp [chars]
  | .bool false => simp [chars]
  | .number (.int n) => simpa [chars, Number.text] using integer_line n
  | .string x => simpa [chars] using quote_line x
  | .list [] => simp [chars, charsOfItems]
  | .list (v :: vs) =>
    simp only [isExact, isExactItems, Bool.and_eq_true] at hx
    have hv := chars_line v hx.1
    have hi := laterItems_line vs hx.2
    simp [chars, charsOfItems_cons, hv, hi]
  | .object [] => simp [chars, charsOfMembers]
  | .object ((k, v) :: ms) =>
    simp only [isExact, isExactMembers, Bool.and_eq_true] at hx
    have hv := chars_line v hx.2.1
    have hm := laterMembers_line ms hx.2.2
    simp [chars, charsOfMembers_cons, quote_line, hv, hm]

theorem laterItems_line (vs : List Json) (hx : isExactItems vs = true) :
    '\n' ∉ laterItems vs := by
  match vs with
  | [] => simp [laterItems]
  | v :: vs =>
    simp only [isExactItems, Bool.and_eq_true] at hx
    have hv := chars_line v hx.1
    have hi := laterItems_line vs hx.2
    simp [laterItems, hv, hi]

theorem laterMembers_line (ms : List (String × Json)) (hx : isExactMembers ms = true) :
    '\n' ∉ laterMembers ms := by
  match ms with
  | [] => simp [laterMembers]
  | (k, v) :: ms =>
    simp only [isExactMembers, Bool.and_eq_true] at hx
    have hv := chars_line v hx.1
    have hm := laterMembers_line ms hx.2
    simp [laterMembers, quote_line, hv, hm]

end

end Json

end RestGateway

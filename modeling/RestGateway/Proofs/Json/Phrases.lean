import RestGateway.Proofs.Json.RoundTrip
import RestGateway.Proofs.Json.Settled

/-!
# Every phrase of the grammar is settled

By induction on the phrase: a list or an object is settled because its elements are, and because the
text after an element is none that could lengthen a number.
-/

set_option autoImplicit false

namespace RestGateway.Json.Grammar
open Reader

theorem blank_stops (b : UInt8) (h : isBlank b = true) :
    isDigit b = false ∧ b ≠ 0x2E ∧ isExponentMark b = false := by
  simp only [isBlank, Bool.or_eq_true, beq_iff_eq] at h
  rcases h with ((rfl | rfl) | rfl) | rfl <;> decide

theorem boundary_blanks {w s : List UInt8} (hw : Blanks w) (hs : Boundary s) :
    Boundary (w ++ s) := by
  cases w with
  | nil => exact hs
  | cons b w =>
    obtain ⟨hd, hp, he⟩ := blank_stops b (hw b (by simp))
    exact boundary_cons b _ hd hp he

theorem comma_boundary {c : List UInt8} (hc : Comma false c) (s : List UInt8) :
    Boundary (c ++ s) := by
  cases hc with
  | later hw _ =>
    rw [List.append_assoc, List.cons_append]
    exact boundary_blanks hw (boundary_cons 0x2C _ (by decide) (by decide) (by decide))

theorem items_boundary {n : Nat} {t : List UInt8} (h : Phrase (.items false) n t)
    (s : List UInt8) : Boundary (t ++ s) := by
  cases h with
  | listEnd hw =>
    rw [List.append_assoc]
    exact boundary_blanks hw (boundary_cons 0x5D s (by decide) (by decide) (by decide))
  | item hc _ _ =>
    rw [List.append_assoc]
    exact comma_boundary hc _

theorem members_boundary {n : Nat} {t : List UInt8} (h : Phrase (.members false) n t)
    (s : List UInt8) : Boundary (t ++ s) := by
  cases h with
  | objectEnd hw =>
    rw [List.append_assoc]
    exact boundary_blanks hw (boundary_cons 0x7D s (by decide) (by decide) (by decide))
  | member hc _ _ _ _ _ =>
    rw [List.append_assoc]
    exact comma_boundary hc _

theorem items_comma {initial : Bool} {c bs rest : List UInt8} {depth : Nat} {vs : List Json}
    (hc : Comma initial c) (hb : ∃ b more, bs = b :: more ∧ isBlank b = false ∧ b ≠ 0x5D) :
    Items (value depth) initial (c ++ bs) vs rest ↔
      ∃ v vs' more, vs = v :: vs' ∧ value depth bs = .ok (v, more) ∧
        Items (value depth) false more vs' rest := by
  cases hc with
  | first hw =>
    rw [items_first, value_blank depth c bs hw, first_blank c bs hw]
    obtain ⟨b, more, rfl, hb, hne⟩ := hb
    rw [first_cons b more hb]
    constructor
    · rintro (⟨-, hf⟩ | h)
      · cases hf
        exact absurd rfl hne
      · exact h
    · exact Or.inr
  | later hw hw' =>
    rw [List.append_assoc, List.cons_append, items_later hw, value_blank depth _ bs hw']

theorem pairs_comma {α : Type} {item : Reader α} {initial : Bool} {c bs rest : List UInt8}
    {ps : List (String × α)} (hc : Comma initial c) :
    Pairs item initial (c ++ 0x22 :: bs) ps rest ↔ ∃ name a more ps', ps = (name, a) :: ps' ∧
      Named item bs name a more ∧ Pairs item false more ps' rest := by
  cases hc with
  | first hw => exact pairs_first hw
  | later hw hw' =>
    rw [List.append_assoc, List.cons_append]
    exact pairs_later hw hw'

theorem named_colon {k w w' bs : List UInt8} {o : Option String} {depth : Nat}
    (ho : ∀ s, Boundary s → ∀ a rest,
      Reader.string (k ++ [0x22] ++ s) = .ok (a, rest) ↔ o = some a ∧ rest = s)
    (hw : Blanks w) (hw' : Blanks w') {name : String} {a : Json} {more : List UInt8} :
    Named (value depth) (k ++ 0x22 :: (w ++ 0x3A :: (w' ++ bs))) name a more ↔
      o = some name ∧ value depth bs = .ok (a, more) := by
  have hb : Boundary (w ++ 0x3A :: (w' ++ bs)) :=
    boundary_blanks hw (boundary_cons 0x3A _ (by decide) (by decide) (by decide))
  have hs := ho (w ++ 0x3A :: (w' ++ bs)) hb
  rw [List.append_assoc, List.singleton_append] at hs
  constructor
  · rintro ⟨mid, mid', hk, hc, hv⟩
    obtain ⟨hn, rfl⟩ := (hs name mid).mp hk
    rw [colon_blank w _ hw] at hc
    cases hc
    rw [value_blank depth w' bs hw'] at hv
    exact ⟨hn, hv⟩
  · rintro ⟨hn, hv⟩
    refine ⟨_, _, (hs name _).mpr ⟨hn, rfl⟩, colon_blank w _ hw, ?_⟩
    rwa [value_blank depth w' bs hw']

def Kind.Result : Kind → Type
  | .value => Json
  | .items _ => List Json
  | .members _ => List (String × Json)

def Kind.Found : (k : Kind) → Nat → List UInt8 → k.Result → List UInt8 → Prop
  | .value => Finds Reader.value
  | .items initial => fun depth => Items (Reader.value depth) initial
  | .members initial => fun depth => Pairs (Reader.value depth) initial

theorem scalar_settled {α : Type} {r : Reader α} {n : Nat} {t u : List UInt8}
    (f : α → Json) (ht : Settled (Finds fun _ => r) 0 t)
    (h : ∀ depth s, value depth (u ++ s) = (r >>= fun a => pure (f a)) (t ++ s)) :
    Settled (Finds value) n u := by
  refine settled_map f ht fun depth _ => ⟨0, Nat.le_refl 0, fun s _ v rest => ?_⟩
  rw [Finds, h depth s]
  exact map_ok

theorem numeral_settled {n : Nat} {t : List UInt8} (ht : Numeral t) :
    Settled (Finds value) n t := by
  apply scalar_settled Json.number (number_settled false t ht)
  intro depth s
  obtain ⟨b, more, rfl, hb⟩ := numeral_digit ht
  exact value_digit hb

theorem quoted_settled {n : Nat} {t : List UInt8} (ht : Body t) :
    Settled (Finds value) n (0x22 :: (t ++ [0x22])) :=
  scalar_settled Json.string (string_settled t ht) fun _ _ => value_quote

theorem item_settled {initial : Bool} {n : Nat} {c v t : List UInt8} (hc : Comma initial c)
    (hv : Phrase .value n v) (ht : Phrase (.items false) n t)
    (ihv : Settled (Finds value) n v)
    (iht : Settled (fun depth => Items (value depth) false) n t) :
    Settled (fun depth => Items (value depth) initial) n (c ++ (v ++ t)) := by
  refine settled_map (fun p => p.1 :: p.2) (settled_then ihv iht (items_boundary ht))
    fun depth hd => ⟨depth, hd, fun s _ vs rest => ?_⟩
  have hb : ∃ b more, v ++ t ++ s = b :: more ∧ isBlank b = false ∧ b ≠ 0x5D := by
    obtain ⟨b, more, rfl, hb⟩ := value_begins hv
    exact ⟨b, more ++ t ++ s, rfl, hb⟩
  rw [List.append_assoc, items_comma hc hb]
  constructor
  · rintro ⟨a, as, more, rfl, ha, has⟩
    exact ⟨(a, as), rfl, more, ha, has⟩
  · rintro ⟨⟨a, as⟩, rfl, more, ha, has⟩
    exact ⟨a, as, more, rfl, ha, has⟩

theorem member_settled {initial : Bool} {n : Nat} {c k w w' v t : List UInt8}
    (hc : Comma initial c) (hk : Body k) (hw : Blanks w) (hw' : Blanks w')
    (ht : Phrase (.members false) n t) (ihv : Settled (Finds value) n v)
    (iht : Settled (fun depth => Pairs (value depth) false) n t) :
    Settled (fun depth => Pairs (value depth) initial) n
      (c ++ 0x22 :: (k ++ 0x22 :: (w ++ 0x3A :: (w' ++ (v ++ t))))) := by
  obtain ⟨o, ho⟩ := string_settled k hk
  have hp (depth : Nat) (s : List UInt8) (ps : List (String × Json)) (rest : List UInt8) :
      Pairs (value depth) initial
        (c ++ 0x22 :: (k ++ 0x22 :: (w ++ 0x3A :: (w' ++ (v ++ t)))) ++ s) ps rest ↔
      ∃ name a more ps', ps = (name, a) :: ps' ∧
        (o = some name ∧ value depth (v ++ t ++ s) = .ok (a, more)) ∧
          Pairs (value depth) false more ps' rest := by
    simp only [List.append_assoc, List.cons_append, pairs_comma hc,
      named_colon (ho 0 · (Nat.le_refl 0)) hw hw']
  cases o with
  | none =>
    apply settled_never
    intro depth s _ _ ps rest h
    obtain ⟨name, a, more, ps', -, ⟨hn, -⟩, -⟩ := (hp depth s ps rest).mp h
    cases hn
  | some name =>
    refine settled_map (fun p => (name, p.1) :: p.2) (settled_then ihv iht (members_boundary ht))
      fun depth hd => ⟨depth, hd, fun s _ ps rest => ?_⟩
    rw [hp]
    constructor
    · rintro ⟨name', a, more, ps', rfl, ⟨hn, ha⟩, has⟩
      cases hn
      exact ⟨(a, ps'), rfl, more, ha, has⟩
    · rintro ⟨⟨a, ps'⟩, rfl, more, ha, has⟩
      exact ⟨name, a, more, ps', rfl, ⟨rfl, ha⟩, has⟩

theorem phrase_settled {k : Kind} {n : Nat} {t : List UInt8} (h : Phrase k n t) :
    Settled k.Found n t := by
  induction h with
  | null => exact settled_ok .null fun depth s _ _ => value_null depth s
  | true => exact settled_ok (.bool .true) fun depth s _ _ => value_true depth s
  | false => exact settled_ok (.bool .false) fun depth s _ _ => value_false depth s
  | number ht => exact numeral_settled ht
  | negative ht => exact scalar_settled Json.number (number_settled true _ ht) fun _ _ => value_minus
  | string ht => exact quoted_settled ht
  | list _ ih =>
    apply settled_map Json.list ih
    intro depth hd
    obtain ⟨inner, rfl⟩ := Nat.exists_eq_add_of_le' hd
    exact ⟨inner + _, Nat.le_add_left _ _, fun s _ v rest => value_list⟩
  | object _ ih =>
    apply settled_map (fun ps => Json.object (Members.ofPairs ps)) ih
    intro depth hd
    obtain ⟨inner, rfl⟩ := Nat.exists_eq_add_of_le' hd
    exact ⟨inner + _, Nat.le_add_left _ _, fun s _ v rest => value_object⟩
  | listEnd hw =>
    apply settled_one []
    intro depth s _ _ vs rest
    rw [List.append_assoc]
    exact items_close hw
  | item hc hv ht ihv iht => exact item_settled hc hv ht ihv iht
  | objectEnd hw =>
    apply settled_one []
    intro depth s _ _ ps rest
    rw [List.append_assoc]
    exact pairs_close hw
  | member hc hk hw hw' _ ht ihv iht => exact member_settled hc hk hw hw' ht ihv iht

/-- A well-formed text is settled, and what is left of it are the blanks at its end. -/
theorem text_settled {n : Nat} {bs : List UInt8} (h : Text n bs) :
    ∃ (o : Option Json) (w : List UInt8), Blanks w ∧ ∀ depth s, n ≤ depth → Boundary s →
      ∀ v rest, value depth (bs ++ s) = .ok (v, rest) ↔ o = some v ∧ rest = w ++ s := by
  obtain ⟨w, t, w', rfl, hw, ht, hw'⟩ := h
  obtain ⟨o, ho⟩ := phrase_settled ht
  refine ⟨o, w', hw', fun depth s hd hs v rest => ?_⟩
  rw [List.append_assoc, value_blank depth w _ hw, List.append_assoc]
  exact ho depth (w' ++ s) hd (boundary_blanks hw' hs) v rest

end RestGateway.Json.Grammar

import RestGateway.Proofs.Json.Mirror
import RestGateway.Proofs.Json.Meaning

/-!
# Values by the texts inside them

One level of the grammar: the elements of a list and the members of an object by the texts of their
values, which may be any. A list is read from the texts that what reads its elements accepts.
-/

set_option autoImplicit false

namespace RestGateway.Json.Grammar
open Reader

variable {α : Type}

inductive Quoted : List UInt8 → String → Prop where
  | mk {t u : List UInt8} {s : String} :
      Content t u → Utf8.string? u = some s → Quoted (0x22 :: (t ++ [0x22])) s

inductive Elements : Bool → List UInt8 → List (List UInt8) → Prop where
  | close {initial : Bool} {w : List UInt8} : Blanks w → Elements initial (w ++ [0x5D]) []
  | next {initial : Bool} {n : Nat} {c v t : List UInt8} {vs : List (List UInt8)} :
      Comma initial c → Phrase .value n v → Elements false t vs →
      Elements initial (c ++ (v ++ t)) (v :: vs)

/-- A member of an object up to the colon, and its name. -/
inductive Label : Bool → List UInt8 → String → Prop where
  | mk {initial : Bool} {c k u w : List UInt8} {name : String} :
      Comma initial c → Content k u → Utf8.string? u = some name → Blanks w →
      Label initial (c ++ 0x22 :: (k ++ 0x22 :: (w ++ [0x3A]))) name

inductive Entries : Bool → List UInt8 → List (String × List UInt8) → Prop where
  | close {initial : Bool} {w : List UInt8} : Blanks w → Entries initial (w ++ [0x7D]) []
  | next {initial : Bool} {n : Nat} {l w v t : List UInt8} {name : String}
      {ps : List (String × List UInt8)} :
      Label initial l name → Blanks w → Phrase .value n v → Entries false t ps →
      Entries initial (l ++ (w ++ (v ++ t))) ((name, v) :: ps)

theorem Quoted.phrase {v : List UInt8} {s : String} (h : Quoted v s) : Phrase .value 0 v := by
  obtain ⟨ht, -⟩ := h
  exact .string (content_body ht)

theorem Elements.phrase {initial : Bool} {t : List UInt8} {vs : List (List UInt8)}
    (h : Elements initial t vs) : ∃ n, Phrase (.items initial) n t := by
  induction h with
  | close hw => exact ⟨0, .listEnd hw⟩
  | @next _ n _ _ _ _ hc hv _ ih =>
    obtain ⟨m, ht⟩ := ih
    exact ⟨max n m, .item hc (hv.mono (Nat.le_max_left n m)) (ht.mono (Nat.le_max_right n m))⟩

theorem Entries.phrase {initial : Bool} {t : List UInt8} {ps : List (String × List UInt8)}
    (h : Entries initial t ps) : ∃ n, Phrase (.members initial) n t := by
  induction h with
  | close hw => exact ⟨0, .objectEnd hw⟩
  | @next _ n _ w v t _ _ hl hw hv _ ih =>
    obtain ⟨m, ht⟩ := ih
    obtain ⟨hc, hk, -, hw'⟩ := hl
    have hm := Phrase.member hc (content_body hk) hw' hw (hv.mono (Nat.le_max_left n m))
      (ht.mono (Nat.le_max_right n m))
    exact ⟨max n m, by simpa using hm⟩

/-- Exactly the texts that `R` relates to a result are read as it, after blanks. -/
def Accepts (r : Reader α) (R : List UInt8 → α → Prop) : Prop :=
  ∀ bs a rest, r bs = .ok (a, rest) ↔ ∃ w v, bs = w ++ (v ++ rest) ∧ Blanks w ∧ R v a

theorem begin_blanks {w : List UInt8} {b : UInt8} (hw : Blanks w) (hb : isBlank b = false)
    (more : List UInt8) : begin (w ++ b :: more) = .ok (b, b :: more) := by
  rw [begin_blank w _ hw]
  exact begin_cons b more hb

theorem text_accepts (wanted : String) : Accepts (Reader.text wanted) Quoted := by
  intro bs s rest
  rw [mirrors_text wanted 0, value_string_iff]
  constructor
  · rintro ⟨more, hb, hs⟩
    obtain ⟨w, hw, rfl⟩ := begin_cut hb
    obtain ⟨t, u, rfl, ht, hu⟩ := string_iff.mp hs
    exact ⟨w, 0x22 :: (t ++ [0x22]), by simp, hw, .mk ht hu⟩
  · rintro ⟨w, v, rfl, hw, ht, hu⟩
    next t u =>
      have hs : Reader.string (t ++ 0x22 :: rest) = .ok (s, rest) :=
        string_iff.mpr ⟨t, u, rfl, ht, hu⟩
      refine ⟨t ++ 0x22 :: rest, ?_, hs⟩
      have hb : begin (w ++ 0x22 :: (t ++ 0x22 :: rest)) =
          .ok (0x22, 0x22 :: (t ++ 0x22 :: rest)) := begin_blanks hw (by decide) _
      simpa using hb

theorem hasElement_value {initial : Bool} {n : Nat} {c v : List UInt8} (hc : Comma initial c)
    (hv : Phrase .value n v) (bs : List UInt8) :
    hasElement initial (c ++ (v ++ bs)) = .ok (true, v ++ bs) := by
  obtain ⟨b, more, rfl, hblank, hne⟩ := value_begins hv
  have hf := first_cons b (more ++ bs) hblank
  cases hc with
  | first hw => exact hasElement_first.mpr ⟨b, (first_blank _ _ hw).trans hf, hne⟩
  | later hw hw' =>
    rw [List.append_assoc, List.cons_append]
    exact (hasElement_later hw).mpr ⟨b, (first_blank _ _ hw').trans hf, hne⟩

theorem hasElement_end {initial : Bool} {bs rest : List UInt8} :
    hasElement initial bs = .ok (false, 0x5D :: rest) ↔ ∃ w, bs = w ++ 0x5D :: rest ∧ Blanks w := by
  rw [hasElement_false]
  constructor
  · intro h
    obtain ⟨w, hw, rfl⟩ := first_cut h
    exact ⟨w, rfl, hw⟩
  · rintro ⟨w, rfl, hw⟩
    exact (first_blank w _ hw).trans (first_cons 0x5D rest (by decide))

section Lists

variable {r : Reader α} {R : List UInt8 → α → Prop} (hr : Accepts r R)
  (hv : ∀ v a, R v a → ∃ n, Phrase .value n v)

include hr hv

theorem accepts_takes : Takes 1 r := by
  intro bs a rest h
  obtain ⟨w, v, rfl, -, ha⟩ := (hr bs a rest).mp h
  obtain ⟨n, hn⟩ := hv v a ha
  obtain ⟨b, more, rfl, -⟩ := value_begins hn
  simp only [List.length_append, List.length_cons]
  omega

theorem items_elements {initial : Bool} {bs rest : List UInt8} {as : List α} :
    Items r initial bs as rest ↔
      ∃ t vs, bs = t ++ rest ∧ Elements initial t vs ∧ List.Forall₂ R vs as := by
  constructor
  · intro h
    induction h with
    | close he =>
      obtain ⟨w, rfl, hw⟩ := hasElement_end.mp he
      exact ⟨w ++ [0x5D], [], by simp, .close hw, .nil⟩
    | next he ha _ ih =>
      obtain ⟨c, hc, rfl⟩ := hasElement_cut he
      obtain ⟨w, v, rfl, hw, hR⟩ := (hr _ _ _).mp ha
      obtain ⟨t, vs, rfl, ht, hvs⟩ := ih
      obtain ⟨n, hn⟩ := hv v _ hR
      exact ⟨c ++ w ++ (v ++ t), v :: vs, by simp, .next (comma_blanks hc hw) hn ht, .cons hR hvs⟩
  · rintro ⟨t, vs, rfl, ht, hvs⟩
    induction ht generalizing as with
    | close hw =>
      cases hvs
      exact .close (hasElement_end.mpr ⟨_, by simp, hw⟩)
    | @next initial n c v t vs hc hn _ ih =>
      cases hvs with
      | cons hR hvs =>
        rw [List.append_assoc, List.append_assoc]
        exact .next (hasElement_value hc hn _) ((hr _ _ _).mpr ⟨[], v, rfl, blank_nil, hR⟩) (ih hvs)

end Lists

inductive ListText (R : List UInt8 → α → Prop) : List UInt8 → List α → Prop where
  | mk {t : List UInt8} {vs : List (List UInt8)} {as : List α} :
      Elements true t vs → List.Forall₂ R vs as → ListText R (0x5B :: t) as

inductive WholeList (R : List UInt8 → α → Prop) : List UInt8 → List α → Prop where
  | mk {w v w' : List UInt8} {as : List α} :
      Blanks w → ListText R v as → Blanks w' → WholeList R (w ++ (v ++ w')) as

theorem listWith_accepts {r : Reader α} {R : List UInt8 → α → Prop} (hr : Accepts r R)
    (hv : ∀ v a, R v a → ∃ n, Phrase .value n v) : Accepts (listWith (some r)) (ListText R) := by
  intro bs as rest
  rw [listWith, bind_eq_ok]
  constructor
  · rintro ⟨b, mid, hb, h⟩
    obtain ⟨w, hw, rfl⟩ := begin_cut hb
    obtain ⟨more, rfl⟩ := first_some _ _ _ (first_begin hb)
    split_ifs at h with hl
    · subst hl
      have hi := (repeatedly_items (accepts_takes hr hv)).mp h
      obtain ⟨t, vs, rfl, ht, hvs⟩ := (items_elements hr hv).mp hi
      exact ⟨w, 0x5B :: t, rfl, hw, .mk ht hvs⟩
    · exact absurd h (wrongType_ne_ok _ _ _)
  · rintro ⟨w, v, rfl, hw, ht, hvs⟩
    next t vs =>
      have hi : Items r true (t ++ rest) as rest := (items_elements hr hv).mpr ⟨t, vs, rfl, ht, hvs⟩
      exact ⟨0x5B, _, begin_blanks hw (by decide) _,
        (repeatedly_items (accepts_takes hr hv)).mpr hi⟩

end RestGateway.Json.Grammar

import Mathlib.Data.List.TakeWhile
import Mathlib.Tactic.Common
import Mathlib.Tactic.SplitIfs
import RestGateway.Text.Split

/-!
# Where texts are cut

A text is cut where a property of its characters ends, or at the first of its separators: in either
case the parts are told by what they hold.
-/

set_option autoImplicit false

namespace RestGateway.Text

variable {p q : Char → Bool} {a b cs : List Char}

theorem cut_iff : cs.takeWhile p = a ∧ cs.dropWhile p = b ↔
    cs = a ++ b ∧ (∀ c ∈ a, p c = true) ∧ ∀ c ∈ b.head?, p c = false := by
  constructor
  · rintro ⟨rfl, rfl⟩
    refine ⟨List.takeWhile_append_dropWhile.symm, fun c hc => List.mem_takeWhile_imp hc, ?_⟩
    intro c hc
    have hne : cs.dropWhile p ≠ [] := by
      intro hnil
      rw [hnil] at hc
      cases hc
    have hhead := List.head_dropWhile_not p hne
    rw [List.head?_eq_some_head hne, Option.mem_some_iff] at hc
    rw [← hc]
    exact hhead
  · rintro ⟨rfl, ha, hb⟩
    rw [List.takeWhile_append_of_pos ha, List.dropWhile_append_of_pos ha]
    cases b with
    | nil => simp
    | cons c rest => simp [hb c rfl]

theorem takeWhile_iff : cs.takeWhile p = a ↔
    ∃ b, cs = a ++ b ∧ (∀ c ∈ a, p c = true) ∧ ∀ c ∈ b.head?, p c = false := by
  constructor
  · intro h
    exact ⟨cs.dropWhile p, cut_iff.mp ⟨h, rfl⟩⟩
  · rintro ⟨b, hcut⟩
    exact (cut_iff.mpr hcut).1

variable {separator : Char}

theorem bne_of_not_mem (h : separator ∉ cs) : ∀ c ∈ cs, (c != separator) = true := by
  intro c hc
  rw [bne_iff_ne]
  rintro rfl
  exact h hc

theorem last_iff : (cs.reverse.takeWhile (· != separator)).reverse = b ↔
    ∃ a, cs = a ++ b ∧ (∀ c ∈ a.getLast?, c = separator) ∧ separator ∉ b := by
  rw [List.reverse_eq_iff, takeWhile_iff]
  constructor
  · rintro ⟨back, hcut, hb, hback⟩
    refine ⟨back.reverse, ?_, ?_, ?_⟩
    · rw [← List.reverse_reverse cs, hcut]
      simp
    · intro c hc
      rw [List.getLast?_reverse] at hc
      simpa using hback c hc
    · intro hm
      simpa using hb _ (List.mem_reverse.mpr hm)
  · rintro ⟨a, rfl, ha, hb⟩
    refine ⟨a.reverse, List.reverse_append, ?_, ?_⟩
    · exact bne_of_not_mem (mt List.mem_reverse.mp hb)
    · intro c hc
      rw [List.head?_reverse] at hc
      simp [ha c hc]

theorem splitOnce_iff : splitOnce? separator cs = some (a, b) ↔
    cs = a ++ separator :: b ∧ separator ∉ a := by
  constructor
  · intro h
    unfold splitOnce? at h
    split at h
    · next c rest hd =>
      cases h
      obtain ⟨hcs, hall, hc⟩ := cut_iff.mp ⟨rfl, hd⟩
      obtain rfl : c = separator := by simpa using hc c rfl
      exact ⟨hcs, fun hmem => by simpa using hall _ hmem⟩
    · cases h
  · rintro ⟨rfl, ha⟩
    have hall : ∀ c ∈ a, (c != separator) = true := bne_of_not_mem ha
    have hend : ∀ c ∈ (separator :: b).head?, (c != separator) = false := by simp
    obtain ⟨ht, hd⟩ := cut_iff.mpr ⟨rfl, hall, hend⟩
    simp only [splitOnce?, ht, hd]

theorem splitOnce_none : splitOnce? separator cs = none ↔ separator ∉ cs := by
  constructor
  · intro h hmem
    obtain ⟨a, b, rfl, ha⟩ := List.eq_append_cons_of_mem hmem
    rw [splitOnce_iff.mpr ⟨rfl, ha⟩] at h
    cases h
  · intro hmem
    cases h : splitOnce? separator cs with
    | none => rfl
    | some parts =>
      obtain ⟨rfl, -⟩ := splitOnce_iff.mp h
      simp at hmem

theorem splitWhere_ne_nil (p : Char → Bool) (cs : List Char) : splitWhere p cs ≠ [] := by
  cases cs with
  | nil => simp [splitWhere]
  | cons c cs =>
    simp only [splitWhere]
    split
    · simp
    · split <;> simp

theorem splitOn_cons (c : Char) (cs : List Char) : splitOn separator (c :: cs) =
    if c == separator then [] :: splitOn separator cs
    else (splitOn separator cs).modifyHead (List.cons c) := by
  rw [splitOn, splitWhere]
  split_ifs with hc
  · rfl
  · cases h : splitOn separator cs with
    | nil => exact absurd h (splitWhere_ne_nil _ cs)
    | cons part parts =>
      rw [splitOn] at h
      rw [h]
      rfl

theorem splitOn_eq (separator : Char) (cs : List Char) :
    splitOn separator cs = cs.splitOn separator := by
  induction cs with
  | nil => rfl
  | cons c cs ih => rw [splitOn_cons, List.splitOn_cons_eq_if_modifyHead, ih]

theorem mem_splitWhere {part : List Char} (h : part ∈ splitWhere p cs) :
    ∀ c ∈ part, p c = false := by
  induction cs generalizing part with
  | nil => simp_all [splitWhere]
  | cons c cs ih =>
    rw [splitWhere] at h
    split_ifs at h with hc
    · rcases List.mem_cons.mp h with rfl | h
      · simp
      · exact ih h
    · cases hparts : splitWhere p cs with
      | nil => exact absurd hparts (splitWhere_ne_nil p cs)
      | cons first parts =>
        rw [hparts] at h ih
        rcases List.mem_cons.mp h with rfl | h
        · exact List.forall_mem_cons.mpr ⟨Bool.eq_false_iff.mpr hc, ih List.mem_cons_self⟩
        · exact ih (List.mem_cons_of_mem _ h)

theorem splitWhere_congr (h : ∀ c ∈ cs, p c = q c) : splitWhere p cs = splitWhere q cs := by
  induction cs with
  | nil => rfl
  | cons c cs ih =>
    obtain ⟨hc, hcs⟩ := List.forall_mem_cons.mp h
    simp only [splitWhere, hc, ih hcs]

theorem separator_not_mem {part : List Char} (h : part ∈ splitOn separator cs) :
    separator ∉ part := fun hm => absurd (mem_splitWhere h separator hm) (by simp)

theorem splitOn_iff {parts : List (List Char)} : splitOn separator cs = parts ↔
    parts ≠ [] ∧ (∀ part ∈ parts, separator ∉ part) ∧ [separator].intercalate parts = cs := by
  constructor
  · rintro rfl
    refine ⟨?_, fun part h => separator_not_mem h, ?_⟩
    · rw [splitOn_eq]
      exact List.splitOn_ne_nil separator cs
    · rw [splitOn_eq]
      exact List.intercalate_splitOn separator
  · rintro ⟨hne, hparts, rfl⟩
    rw [splitOn_eq]
    exact List.splitOn_intercalate separator hparts hne

theorem mem_intercalate {parts : List (List Char)} {c : Char}
    (h : c ∈ [separator].intercalate parts) : c = separator ∨ ∃ part ∈ parts, c ∈ part := by
  induction parts with
  | nil => simp at h
  | cons part parts ih =>
    cases parts with
    | nil => exact .inr ⟨part, List.mem_singleton_self _, by simpa using h⟩
    | cons next parts =>
      rw [List.intercalate_cons_cons, List.append_assoc, List.mem_append, List.mem_append,
        List.mem_singleton] at h
      rcases h with h | h | h
      · exact .inr ⟨part, List.mem_cons_self, h⟩
      · exact .inl h
      · obtain h | ⟨p, hp, hc⟩ := ih h
        · exact .inl h
        · exact .inr ⟨p, List.mem_cons_of_mem _ hp, hc⟩

theorem mem_intercalate_of_mem {parts : List (List Char)} {part : List Char} {c : Char}
    (hpart : part ∈ parts) (hc : c ∈ part) : c ∈ [separator].intercalate parts := by
  induction parts with
  | nil => cases hpart
  | cons first parts ih =>
    cases parts with
    | nil =>
      obtain rfl := List.mem_singleton.mp hpart
      simpa using hc
    | cons next parts =>
      rw [List.intercalate_cons_cons, List.append_assoc, List.mem_append, List.mem_append]
      rcases List.mem_cons.mp hpart with rfl | hpart
      · exact .inl hc
      · exact .inr (.inr (ih hpart))

theorem mem_of_mem_splitOn {part : List Char} {c : Char} (hpart : part ∈ splitOn separator cs)
    (hc : c ∈ part) : c ∈ cs := by
  obtain ⟨-, -, hjoin⟩ := splitOn_iff.mp (rfl : splitOn separator cs = _)
  rw [← hjoin]
  exact mem_intercalate_of_mem hpart hc

end RestGateway.Text

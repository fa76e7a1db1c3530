import RestGateway.Proofs.Attempts
import RestGateway.Proofs.Text.Split
import RestGateway.Proofs.Unicode.Ascii
import RestGateway.Proofs.Url.Punycode
import RestGateway.Url.Domain

/-!
# Domains in ASCII stay as they are

A label is read back from what is written of it: Punycode decodes to the label it was written from,
and that label passes the same checks again. What is written is in ASCII and in lower case, so a
domain that was brought into ASCII stands for itself.
-/

set_option autoImplicit false

namespace RestGateway.Url

variable {label part text domain : List Char} {labels : List (List Char)}

theorem isAscii_iff {cs : List Char} : isAscii cs = true ↔ ∀ c ∈ cs, c.toNat < 0x80 := by
  simp [isAscii]

theorem isLabel_iff : isLabel label = true ↔ marked? label = none ∧
    (∀ c ∈ label, c ≠ '.' ∧ Unicode.isHeld c = true) ∧ Unicode.composed label = label ∧
      (∀ c, label.head? = some c → Unicode.isMark c = false) ∧
      Unicode.joinersFit [] label = true := by
  simp [isLabel, Option.any_eq_false, and_assoc]

structure Labelled (c : Char) : Prop where
  ascii : c.toNat < 0x80
  lower : c.toLower = c
  noDot : c ≠ '.'

theorem labelled_mark : ∀ c ∈ "xn--".toList, Labelled c := by
  have hall : "xn--".toList.all (fun c => decide (c.toNat < 0x80 ∧ c.toLower = c ∧ c ≠ '.')) := by
    decide
  intro c hc
  obtain ⟨hascii, hlower, hdot⟩ := of_decide_eq_true (List.all_eq_true.mp hall c hc)
  exact ⟨hascii, hlower, hdot⟩

theorem labelled_encode (h : ∀ c ∈ label, c.toNat < 0x80 → Labelled c) :
    ∀ c ∈ Punycode.encode label, Labelled c := by
  intro c hc
  rcases Punycode.mem_encode hc with ⟨hmem, hascii⟩ | rfl | hdigit
  · exact h c hmem hascii
  · exact ⟨by decide, by decide, by decide⟩
  · obtain ⟨hascii, hlower, -, hdot⟩ := hdigit.plain
    exact ⟨hascii, hlower, hdot⟩

theorem label_labelled (h : isLabel label = true) : ∀ c ∈ label, c.toNat < 0x80 → Labelled c := by
  intro c hc hascii
  obtain ⟨-, hheld, -⟩ := isLabel_iff.mp h
  obtain ⟨hdot, hc⟩ := hheld c hc
  exact ⟨hascii, (Unicode.isHeld_ascii hascii).mp hc, hdot⟩

theorem labelText_labelled (h : isLabel label = true) : ∀ c ∈ labelText label, Labelled c := by
  intro c hc
  unfold labelText at hc
  split_ifs at hc with hascii
  · exact label_labelled h c hc (isAscii_iff.mp hascii c hc)
  · rcases List.mem_append.mp hc with hc | hc
    · exact labelled_mark c hc
    · exact labelled_encode (label_labelled h) c hc

theorem label_labelText (h : isLabel label = true) : label? (labelText label) = some label := by
  unfold labelText
  split_ifs with hascii
  · simp only [label?, (isLabel_iff.mp h).1, Option.filter_some_pos h]
  · have hmarked : marked? ("xn--".toList ++ Punycode.encode label) =
        some (Punycode.encode label) := rfl
    have hcode : isAscii (Punycode.encode label) = true :=
      isAscii_iff.mpr fun c hc => (labelled_encode (label_labelled h) c hc).ascii
    simp only [label?, hmarked, Punycode.decode_encode]
    exact Option.filter_some_pos (by simp [hcode, h, hascii])

theorem mem_text {parts : List (List Char)} (h : ∀ part ∈ parts, ∀ c ∈ part, Labelled c) :
    ∀ c ∈ ['.'].intercalate parts, c.toNat < 0x80 ∧ c.toLower = c := by
  intro c hc
  obtain rfl | ⟨part, hpart, hc⟩ := Text.mem_intercalate hc
  · exact ⟨by decide, by decide⟩
  · exact ⟨(h part hpart c hc).ascii, (h part hpart c hc).lower⟩

theorem toAscii_labels (hne : labels ≠ []) (h : ∀ label ∈ labels, isLabel label = true)
    (hfit : Unicode.directionsFit labels = true)
    (hallowed : ¬(['.'].intercalate (labels.map labelText)).any isForbidden = true) :
    toAscii? (['.'].intercalate (labels.map labelText)) =
      some (['.'].intercalate (labels.map labelText)) := by
  have hparts : ∀ part ∈ labels.map labelText, ∀ c ∈ part, Labelled c := by
    intro part hpart
    obtain ⟨label, hlabel, rfl⟩ := List.mem_map.mp hpart
    exact labelText_labelled (h label hlabel)
  have hplain := mem_text hparts
  have hsplit : Text.splitOn '.' (['.'].intercalate (labels.map labelText)) =
      labels.map labelText := by
    refine Text.splitOn_iff.mpr ⟨by simpa using hne, ?_, rfl⟩
    intro part hpart hdot
    exact (hparts part hpart _ hdot).noDot rfl
  have hread : (labels.map labelText).mapM label? = some labels := by
    refine mapM_eq_some.mpr (List.forall₂_map_left_iff.mpr (List.forall₂_same.mpr ?_))
    exact fun label hlabel => label_labelText (h label hlabel)
  simp only [toAscii?, Unicode.flatMap_mapping hplain,
    Unicode.composed_ascii fun c hc => (hplain c hc).1, hsplit, hread, Option.bind_eq_bind,
    Option.bind_some, if_pos (And.intro hfit hallowed)]

theorem isLabel_labelled (h : ∀ c ∈ label, Labelled c) (hmarked : marked? label = none) :
    isLabel label = true := by
  have hascii : ∀ c ∈ label, c.toNat < 0x80 := fun c hc => (h c hc).ascii
  refine isLabel_iff.mpr ⟨hmarked, fun c hc => ?_, Unicode.composed_ascii hascii, fun c hc => ?_,
    Unicode.joinersFit_ascii [] hascii⟩
  · exact ⟨(h c hc).noDot, (Unicode.isHeld_ascii (hascii c hc)).mpr (h c hc).lower⟩
  · exact Unicode.isMark_ascii (hascii c (List.mem_of_head? hc))

/-- A domain in ASCII and in lower case that holds no Punycode is left alone. -/
theorem toAscii_plain (hascii : ∀ c ∈ text, c.toNat < 0x80 ∧ c.toLower = c)
    (hmarked : ∀ part ∈ Text.splitOn '.' text, marked? part = none)
    (hallowed : ∀ c ∈ text, isForbidden c = false) : toAscii? text = some text := by
  obtain ⟨hne, hdot, hjoin⟩ := Text.splitOn_iff.mp (rfl : Text.splitOn '.' text = _)
  have hplain : ∀ part ∈ Text.splitOn '.' text, ∀ c ∈ part, Labelled c := by
    intro part hpart c hc
    have hmem := Text.mem_of_mem_splitOn hpart hc
    exact ⟨(hascii c hmem).1, (hascii c hmem).2, fun he => hdot part hpart (he ▸ hc)⟩
  have hlabels : (Text.splitOn '.' text).map labelText = Text.splitOn '.' text := by
    refine List.map_congr_left (fun part hpart => ?_) |>.trans (List.map_id _)
    exact if_pos (isAscii_iff.mpr fun c hc => (hplain part hpart c hc).ascii)
  have h := toAscii_labels hne (fun part hpart => isLabel_labelled (hplain part hpart)
    (hmarked part hpart)) (Unicode.directionsFit_ascii fun part hpart c hc =>
      (hplain part hpart c hc).ascii)
  rw [hlabels, hjoin] at h
  refine h ?_
  rw [Bool.not_eq_true, List.any_eq_false]
  exact fun c hc => Bool.eq_false_iff.mp (hallowed c hc)

theorem digit_plain {c : Char} (h : c = '.' ∨ c.isDigit = true) :
    c.toNat < 0x80 ∧ isForbidden c = false ∧ c.toLower = c ∧ c ≠ '-' := by
  have hascii : c.toNat < 0x80 := by
    rcases h with rfl | hdigit
    · decide
    · exact Ascii.digit_lt hdigit
  revert h
  exact Ascii.of_forall hascii (by decide)

theorem toAscii_digits (h : ∀ c ∈ text, c = '.' ∨ c.isDigit = true) :
    toAscii? text = some text := by
  refine toAscii_plain (fun c hc => ⟨(digit_plain (h c hc)).1, (digit_plain (h c hc)).2.2.1⟩)
    (fun part hpart => ?_) fun c hc => (digit_plain (h c hc)).2.1
  have hhyphen : '-' ∉ part := fun hc =>
    (digit_plain (h _ (Text.mem_of_mem_splitOn hpart hc))).2.2.2 rfl
  unfold marked?
  split
  · simp at hhyphen
  · rfl

end RestGateway.Url

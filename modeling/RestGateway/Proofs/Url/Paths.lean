import RestGateway.Proofs.Text.Split
import RestGateway.Proofs.Url.Percent
import RestGateway.Url.Path

/-!
# Paths are read back

The segments of a path that was read are encoded and are no dots, so their text is read as these
segments. Encoding makes no dots of a segment that was none.
-/

set_option autoImplicit false

namespace RestGateway.Url

open Percent (Plain encode encodeChar encodeByte hexDigit inPath)

variable {s t : List Char} {c : Char}

theorem plainDots_cons
    (h : ∀ d more, t = '2' :: d :: more → ¬(c = '%' ∧ (d = 'e' ∨ d = 'E'))) :
    plainDots (c :: t) = c :: plainDots t := by
  rw [plainDots.eq_def]
  split
  · next hnil => cases hnil
  · next x d more hcons =>
    obtain ⟨rfl, rfl⟩ := List.cons.inj hcons
    rw [if_neg (h d more rfl)]
  · next hcons =>
    obtain ⟨rfl, rfl⟩ := List.cons.inj hcons
    rfl

theorem plainDots_other (hc : c ≠ '%') : plainDots (c :: t) = c :: plainDots t :=
  plainDots_cons fun _ _ _ h => hc h.1

theorem plainDots_encodeByte {b : UInt8} (hb : b.toNat ≠ 0x2E) :
    plainDots (encodeByte b ++ t) = encodeByte b ++ plainDots t := by
  have hdigits : ∀ n < 16, hexDigit n ≠ '%' ∧ hexDigit n ≠ 'e' ∧
      (hexDigit n = '2' → n = 2) ∧ (hexDigit n = 'E' → n = 14) := by decide
  have hlt := b.toNat_lt
  obtain ⟨hhigh, -, htwo, -⟩ := hdigits (b.toNat / 16) (by omega)
  obtain ⟨hlow, hsmall, -, hlarge⟩ := hdigits (b.toNat % 16) (by omega)
  simp only [encodeByte, List.cons_append, List.nil_append]
  rw [plainDots_cons, plainDots_other hhigh, plainDots_other hlow]
  rintro d more hcons
  obtain ⟨hx, hrest⟩ := List.cons.inj hcons
  obtain ⟨rfl, -⟩ := List.cons.inj hrest
  rintro ⟨-, h | h⟩
  · exact hsmall h
  · have := htwo hx
    have := hlarge h
    omega

theorem plainDots_bytes {bs : List UInt8} (hbs : ∀ b ∈ bs, b.toNat ≠ 0x2E) :
    plainDots (bs.flatMap encodeByte ++ t) = bs.flatMap encodeByte ++ plainDots t := by
  induction bs with
  | nil => rfl
  | cons b bs ih =>
    obtain ⟨hb, hbs⟩ := List.forall_mem_cons.mp hbs
    rw [List.flatMap_cons, List.append_assoc, plainDots_encodeByte hb, ih hbs, List.append_assoc]

theorem encodeChar_head {set : Char → Bool} (hc : set c = true) :
    ∃ more, encodeChar set c = '%' :: more := by
  obtain ⟨b, bs, hbs⟩ := List.exists_cons_of_ne_nil (@String.utf8EncodeChar_ne_nil c)
  exact ⟨_, by rw [encodeChar, if_pos hc, hbs, List.flatMap_cons, encodeByte]; rfl⟩

theorem encode_head {set : Char → Bool} (h : encode set s = c :: t) (hc : c ≠ '%') :
    ∃ rest, s = c :: rest ∧ t = encode set rest := by
  cases s with
  | nil => cases h
  | cons x rest =>
    rw [Percent.encode_cons] at h
    cases hx : set x with
    | false =>
      rw [Percent.encodeChar_plain hx] at h
      obtain ⟨rfl, rfl⟩ := List.cons.inj h
      exact ⟨rest, rfl, rfl⟩
    | true =>
      obtain ⟨more, hmore⟩ := encodeChar_head hx
      rw [hmore] at h
      exact absurd (List.cons.inj h).1.symm hc

theorem inPath_bytes (hc : inPath c = true) : ∀ b ∈ String.utf8EncodeChar c, b.toNat ≠ 0x2E := by
  intro b hb hdot
  rcases Utf8.byte_of_char hb with hnat | hhigh
  · have hchar : c = '.' := Char.toNat_inj.mp (hnat.symm.trans hdot)
    rw [hchar] at hc
    exact absurd hc (by decide)
  · omega

theorem plainDots_encodeChar
    (h : ∀ d more, s = '2' :: d :: more → ¬(c = '%' ∧ (d = 'e' ∨ d = 'E'))) :
    plainDots (encodeChar inPath c ++ encode inPath s) =
      encodeChar inPath c ++ plainDots (encode inPath s) := by
  cases hc : inPath c with
  | true =>
    rw [encodeChar, if_pos hc]
    exact plainDots_bytes (inPath_bytes hc)
  | false =>
    rw [Percent.encodeChar_plain hc]
    refine plainDots_cons ?_
    rintro d more hcons ⟨rfl, hd⟩
    obtain ⟨rest, rfl, hrest⟩ := encode_head hcons (by decide)
    have hne : d ≠ '%' := by
      rintro rfl
      rcases hd with h | h <;> exact absurd h (by decide)
    obtain ⟨more, rfl, -⟩ := encode_head hrest.symm hne
    exact h d more rfl ⟨rfl, hd⟩

/-- Encoding what else is in a path and decoding the dots may be done in either order. -/
theorem plainDots_encode (s : List Char) :
    plainDots (encode inPath s) = encode inPath (plainDots s) := by
  fun_induction plainDots s with
  | case1 => rfl
  | case2 c d more hdot ih =>
    obtain ⟨rfl, hd⟩ := hdot
    have hkept : encode inPath ('%' :: '2' :: d :: more) =
        '%' :: '2' :: d :: encode inPath more := by
      rcases hd with rfl | rfl <;> rfl
    rw [hkept, plainDots, if_pos ⟨rfl, hd⟩, ih]
    rfl
  | case3 c d more hdot ih =>
    rw [Percent.encode_cons, plainDots_encodeChar, ih, ← Percent.encode_cons]
    rintro d' more' hcons
    obtain ⟨-, hcons⟩ := List.cons.inj hcons
    obtain ⟨rfl, rfl⟩ := List.cons.inj hcons
    exact hdot
  | case4 c rest hrest ih =>
    rw [Percent.encode_cons, plainDots_encodeChar, ih, ← Percent.encode_cons]
    exact fun d more hcons => absurd hcons (hrest d more)

theorem encode_eq_nil {set : Char → Bool} : encode set s = [] ↔ s = [] := by
  refine ⟨fun h => ?_, fun h => by rw [h]; rfl⟩
  cases s with
  | nil => rfl
  | cons c rest =>
    rw [Percent.encode_cons, List.append_eq_nil_iff] at h
    cases hc : set c with
    | false => exact absurd h.1 (by simp [Percent.encodeChar_plain hc])
    | true =>
      obtain ⟨more, hmore⟩ := encodeChar_head hc
      exact absurd h.1 (by simp [hmore])

theorem encode_dots {dots : List Char} (hdots : ∀ c ∈ dots, c = '.') :
    encode inPath s = dots ↔ s = dots := by
  induction dots generalizing s with
  | nil => exact encode_eq_nil
  | cons c dots ih =>
    obtain ⟨rfl, hrest⟩ := List.forall_mem_cons.mp hdots
    constructor
    · intro h
      obtain ⟨rest, rfl, hcut⟩ := encode_head h (by decide)
      rw [(ih hrest).mp hcut.symm]
    · rintro rfl
      rw [Percent.encode_cons, (ih hrest).mpr rfl]
      rfl

theorem isSingleDot_encode (s : List Char) : isSingleDot (encode inPath s) = isSingleDot s := by
  rw [Bool.eq_iff_iff, isSingleDot, isSingleDot, beq_iff_eq, beq_iff_eq, plainDots_encode]
  exact encode_dots (by simp)

theorem isDoubleDot_encode (s : List Char) : isDoubleDot (encode inPath s) = isDoubleDot s := by
  rw [Bool.eq_iff_iff, isDoubleDot, isDoubleDot, beq_iff_eq, beq_iff_eq, plainDots_encode]
  exact encode_dots (by simp)

structure IsSegment (s : List Char) : Prop where
  plain : Plain inPath s
  noSlash : ∀ c ∈ s, isSlash true c = false
  noDot : isSingleDot s = false
  noDots : isDoubleDot s = false

theorem isSegment_nil : IsSegment [] :=
  ⟨fun _ h => absurd h List.not_mem_nil, fun _ h => absurd h List.not_mem_nil, rfl, rfl⟩

theorem inPath_keeps : Percent.Keeps inPath := by decide

theorem noSlash_encode (h : ∀ c ∈ s, isSlash true c = false) :
    ∀ c ∈ encode inPath s, isSlash true c = false := by
  have hdigits : ∀ n < 16, isSlash true (hexDigit n) = false := by decide
  intro c hc
  rcases Percent.mem_encode hc with ⟨hmem, -⟩ | rfl | ⟨n, hn, rfl⟩
  · exact h c hmem
  · decide
  · exact hdigits n hn

theorem isSegment_encode (h : ∀ c ∈ s, isSlash true c = false) (hdot : ¬isSingleDot s = true)
    (hdots : ¬isDoubleDot s = true) : IsSegment (encode inPath s) where
  plain := Percent.plain_encode inPath_keeps s
  noSlash := noSlash_encode h
  noDot := by rw [isSingleDot_encode]; exact Bool.eq_false_iff.mpr hdot
  noDots := by rw [isDoubleDot_encode]; exact Bool.eq_false_iff.mpr hdots

def IsPath (parts : List (List Char)) : Prop := parts ≠ [] ∧ ∀ s ∈ parts, IsSegment s

variable {done parts : List (List Char)}

theorem isPath_reverse (hs : IsSegment s) (hdone : ∀ s ∈ done, IsSegment s) :
    IsPath (s :: done).reverse :=
  ⟨by simp, fun t ht => List.forall_mem_cons.mpr ⟨hs, hdone⟩ t (List.mem_reverse.mp ht)⟩

theorem walk_isPath (hne : parts ≠ []) (hdone : ∀ s ∈ done, IsSegment s)
    (hparts : ∀ s ∈ parts, ∀ c ∈ s, isSlash true c = false) : IsPath (walk done parts) := by
  have htail (done : List (List Char)) (hdone : ∀ s ∈ done, IsSegment s) :
      ∀ s ∈ done.tail, IsSegment s := fun s hs => hdone s (List.mem_of_mem_tail hs)
  fun_induction walk done parts with
  | case1 => exact absurd rfl hne
  | case2 done last => exact isPath_reverse isSegment_nil (htail done hdone)
  | case3 done last => exact isPath_reverse isSegment_nil hdone
  | case4 done last hdots hdot =>
    exact isPath_reverse (isSegment_encode (hparts last List.mem_cons_self) hdot hdots) hdone
  | case5 done s t rest hdots ih =>
    obtain ⟨-, hrest⟩ := List.forall_mem_cons.mp hparts
    exact ih (List.cons_ne_nil _ _) (htail done hdone) hrest
  | case6 done s t rest hdots hdot ih =>
    obtain ⟨-, hrest⟩ := List.forall_mem_cons.mp hparts
    exact ih (List.cons_ne_nil _ _) hdone hrest
  | case7 done s t rest hdots hdot ih =>
    obtain ⟨hs, hrest⟩ := List.forall_mem_cons.mp hparts
    have hreached := List.forall_mem_cons.mpr ⟨isSegment_encode hs hdot hdots, hdone⟩
    exact ih (List.cons_ne_nil _ _) hreached hrest

theorem walk_segments (hparts : ∀ s ∈ parts, IsSegment s) :
    walk done parts = done.reverse ++ parts := by
  induction parts generalizing done with
  | nil => rw [walk, List.append_nil]
  | cons s parts ih =>
    obtain ⟨hs, hparts⟩ := List.forall_mem_cons.mp hparts
    have hdot := Bool.eq_false_iff.mp hs.noDot
    have hdots := Bool.eq_false_iff.mp hs.noDots
    cases parts with
    | nil => rw [walk, if_neg hdots, if_neg hdot, Percent.encode_plain hs.plain, List.reverse_cons]
    | cons t rest =>
      rw [walk, if_neg hdots, if_neg hdot, Percent.encode_plain hs.plain, ih hparts]
      simp

theorem segments_isPath (text : List Char) : IsPath (segments true text) := by
  unfold segments
  split
  · exact ⟨by simp, by simpa using isSegment_nil⟩
  · exact walk_isPath (Text.splitWhere_ne_nil _ _) (by simp) fun s hs => Text.mem_splitWhere hs

theorem chars_segments (hne : parts ≠ []) :
    (Path.segments parts).chars = '/' :: ['/'].intercalate parts := by
  induction parts with
  | nil => exact absurd rfl hne
  | cons s parts ih =>
    cases parts with
    | nil => simp [Path.chars]
    | cons t rest =>
      have hrest := ih (List.cons_ne_nil _ _)
      simp only [Path.chars] at hrest ⊢
      rw [List.flatMap_cons, hrest, List.intercalate_cons_cons]
      simp

/-- The text of a path is read as that path. -/
theorem segments_chars (h : IsPath parts) : segments true (Path.segments parts).chars = parts := by
  obtain ⟨hne, hparts⟩ := h
  have hslash : ∀ c ∈ ['/'].intercalate parts, isSlash true c = (c == '/') := by
    intro c hc
    obtain rfl | ⟨s, hs, hc⟩ := Text.mem_intercalate hc
    · rfl
    · have hplain := (hparts s hs).noSlash c hc
      rw [hplain, eq_comm, beq_eq_false_iff_ne]
      rintro rfl
      exact absurd hplain (by decide)
  have hsplit : Text.splitWhere (isSlash true) (['/'].intercalate parts) = parts := by
    rw [Text.splitWhere_congr hslash]
    refine Text.splitOn_iff.mpr ⟨hne, fun s hs hm => ?_, rfl⟩
    exact absurd ((hparts s hs).noSlash '/' hm) (by decide)
  have hfront : isSlash true '/' = true := rfl
  simp only [chars_segments hne, segments, hfront, if_true, hsplit, walk_segments hparts,
    List.reverse_nil, List.nil_append]

end RestGateway.Url

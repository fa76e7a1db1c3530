import RestGateway.Proofs.Json.Settled

/-!
# The text that a number or a string was read from

What the readers of numbers and strings take is spelled by the grammar, and what they give is what
the grammar's spelling stands for: for a string the characters that its bytes and escapes name.
-/

set_option autoImplicit false

namespace RestGateway.Json.Grammar
open Reader

section Numbers
variable {negative : Bool} {significand : Nat} {bs rest : List UInt8} {x : Number}

theorem float_rest {e : Int} (h : float negative significand e bs = .ok (x, rest)) : rest = bs := by
  cases hs : scale 4 (UInt64.ofNat significand).toFloat e with
  | none =>
    rw [float, hs] at h
    cases h
  | some y =>
    rw [float, hs] at h
    cases h
    rfl

theorem exponentDigits_cut {start : Int} {down : Bool} {n : Nat}
    (h : exponentDigits negative significand start down n bs = .ok (x, rest)) :
    ∃ ds, bs = ds ++ rest ∧ ∀ d ∈ ds, isDigit d = true := by
  induction bs generalizing n with
  | nil =>
    obtain rfl := float_rest h
    exact ⟨[], rfl, List.forall_mem_nil _⟩
  | cons b bs ih =>
    rw [exponentDigits] at h
    dsimp only at h
    split_ifs at h with hb hn hz
    · obtain ⟨ds, rfl, hds⟩ := ih h
      exact ⟨b :: ds, rfl, List.forall_mem_cons.mpr ⟨hb, hds⟩⟩
    · cases h
      refine ⟨b :: bs.takeWhile isDigit, ?_, List.forall_mem_cons.mpr ⟨hb, fun d hd => ?_⟩⟩
      · rw [List.cons_append, List.takeWhile_append_dropWhile]
      · exact List.mem_takeWhile_imp hd
    all_goals
      obtain rfl := float_rest h
      exact ⟨[], rfl, List.forall_mem_nil _⟩

theorem exponentSign_cut (bs : List UInt8) :
    ∃ sign ∈ [[], [0x2B], [0x2D]], bs = sign ++ (exponentSign bs).2 := by
  unfold exponentSign
  split
  · exact ⟨[0x2B], by simp, rfl⟩
  · exact ⟨[0x2D], by simp, rfl⟩
  · exact ⟨[], by simp, rfl⟩

theorem exponent_cut {start : Int} {mark : UInt8} (hm : isExponentMark mark = true)
    (h : exponent negative significand start bs = .ok (x, rest)) :
    ∃ e, mark :: bs = e ++ rest ∧ Exponent e := by
  obtain ⟨sign, hsign, hbs⟩ := exponentSign_cut bs
  rw [exponent] at h
  cases hd : (exponentSign bs).2 with
  | nil =>
    simp only [hd] at h
    cases h
  | cons b more =>
    simp only [hd] at h
    split_ifs at h with hb
    obtain ⟨ds, rfl, hds⟩ := exponentDigits_cut h
    rw [hd] at hbs
    have hdigits : Digits (b :: ds) := ⟨by simp, List.forall_mem_cons.mpr ⟨hb, hds⟩⟩
    refine ⟨mark :: (sign ++ b :: ds), ?_, .some hm hsign hdigits⟩
    rw [hbs]
    simp

theorem takeWhile_whole {bs : List UInt8} (hne : bs.takeWhile isDigit ≠ []) :
    Digits (bs.takeWhile isDigit) :=
  ⟨hne, fun _ hd => List.mem_takeWhile_imp hd⟩

theorem fraction_cut {dropped : Nat}
    (h : fraction negative significand dropped bs = .ok (x, rest)) :
    ∃ t, 0x2E :: bs = t ++ rest ∧ Tail t := by
  have hbs := List.takeWhile_append_dropWhile (p := isDigit) (l := bs)
  simp only [fraction] at h
  split_ifs at h with he
  have hdigits : Digits (bs.takeWhile isDigit) := takeWhile_whole (by simpa using he)
  cases hd : bs.dropWhile isDigit with
  | nil =>
    simp only [hd] at h
    obtain rfl := float_rest h
    refine ⟨0x2E :: (bs.takeWhile isDigit ++ []), ?_, .point hdigits .none⟩
    rw [hd] at hbs
    simpa using hbs.symm
  | cons b more =>
    simp only [hd] at h
    rw [hd] at hbs
    split_ifs at h with hm
    · obtain ⟨e, hmore, he⟩ := exponent_cut hm h
      refine ⟨0x2E :: (bs.takeWhile isDigit ++ e), ?_, .point hdigits he⟩
      rw [List.cons_append, List.append_assoc, ← hmore, hbs]
    · obtain rfl := float_rest h
      refine ⟨0x2E :: (bs.takeWhile isDigit ++ []), ?_, .point hdigits .none⟩
      rw [List.append_nil, List.cons_append, hbs]

theorem afterInteger_cut {dropped : Nat}
    (h : afterInteger negative significand dropped bs = .ok (x, rest)) :
    ∃ t, bs = t ++ rest ∧ Tail t := by
  have hplain (hr : rest = bs) : ∃ t, bs = t ++ rest ∧ Tail t := ⟨[], hr.symm, .plain .none⟩
  cases bs with
  | nil =>
    simp only [afterInteger] at h
    split_ifs at h
    · cases h
      exact hplain rfl
    · exact hplain (float_rest h)
  | cons b bs =>
    simp only [afterInteger] at h
    split_ifs at h with hp hm hd
    · subst hp
      exact fraction_cut h
    · obtain ⟨e, he, hx⟩ := exponent_cut hm h
      exact ⟨e, he, .plain hx⟩
    · cases h
      exact hplain rfl
    · exact hplain (float_rest h)

theorem number_cut (h : Reader.number negative bs = .ok (x, rest)) :
    ∃ t, bs = t ++ rest ∧ Numeral t := by
  cases bs with
  | nil => cases h
  | cons b bs =>
    by_cases hz : b = 0x30
    · subst hz
      have hafter : ∃ t, bs = t ++ rest ∧ Tail t := by
        cases bs with
        | nil =>
          simp only [Reader.number, if_true] at h
          exact afterInteger_cut h
        | cons c cs =>
          simp only [Reader.number, if_true] at h
          split_ifs at h
          exact afterInteger_cut h
      obtain ⟨t, rfl, ht⟩ := hafter
      exact ⟨[0x30] ++ t, rfl, .mk (by decide) ht⟩
    · simp only [Reader.number, if_neg hz] at h
      split_ifs at h with hb
      obtain ⟨t, hd, ht⟩ := afterInteger_cut h
      have hbs := List.takeWhile_append_dropWhile (p := isDigit) (l := b :: bs)
      rw [hd] at hbs
      have hhead : (b :: bs).takeWhile isDigit = b :: bs.takeWhile isDigit :=
        List.takeWhile_cons_of_pos hb
      have hw : Whole ((b :: bs).takeWhile isDigit) := by
        refine ⟨takeWhile_whole (by simp [hhead]), fun h0 => ?_⟩
        rw [hhead, List.head?_cons, Option.some.injEq] at h0
        exact absurd h0 hz
      exact ⟨(b :: bs).takeWhile isDigit ++ t, by rw [List.append_assoc, hbs], .mk hw ht⟩

theorem number_iff (hs : Boundary rest) : Reader.number negative bs = .ok (x, rest) ↔
    ∃ t, bs = t ++ rest ∧ Numeral t ∧ Reader.number negative t = .ok (x, []) := by
  have hsettled {t : List UInt8} (ht : Numeral t) :
      Reader.number negative (t ++ rest) = .ok (x, rest) ↔
        Reader.number negative t = .ok (x, []) := by
    obtain ⟨o, ho⟩ := number_settled negative t ht
    have hrest := ho 0 rest (Nat.le_refl 0) hs x rest
    have hnil := ho 0 [] (Nat.le_refl 0) boundary_nil x []
    rw [Finds] at hrest hnil
    rw [List.append_nil] at hnil
    simp only [and_true] at hrest hnil
    exact hrest.trans hnil.symm
  constructor
  · intro h
    obtain ⟨t, rfl, ht⟩ := number_cut h
    exact ⟨t, rfl, ht, (hsettled ht).mp h⟩
  · rintro ⟨t, rfl, ht, h⟩
    exact (hsettled ht).mpr h

/-- Nothing fails but for the size of the number. -/
def Sized (r : Except Fault (Number × List UInt8)) : Prop :=
  ∀ f, r = .error f → f.cause = .numberTooLarge

theorem sized_ok (x : Number) (rest : List UInt8) : Sized (.ok (x, rest)) := by
  intro f hf
  cases hf

theorem float_sized (e : Int) : Sized (float negative significand e bs) := by
  unfold float
  cases scale 4 (UInt64.ofNat significand).toFloat e with
  | some y => exact sized_ok _ _
  | none =>
    intro f hf
    cases hf
    rfl

theorem exponentDigits_sized (start : Int) (down : Bool) (n : Nat) :
    Sized (exponentDigits negative significand start down n bs) := by
  induction bs generalizing n with
  | nil => exact float_sized _
  | cons b bs ih =>
    rw [exponentDigits]
    dsimp only
    split_ifs
    · exact ih _
    · exact sized_ok _ _
    · intro f hf
      cases hf
      rfl
    all_goals exact float_sized _

theorem exponent_sized (start : Int) {sign ds : List UInt8} (hs : sign ∈ [[], [0x2B], [0x2D]])
    (hd : Digits ds) : Sized (exponent negative significand start (sign ++ ds)) := by
  obtain ⟨d, ds, rfl⟩ := List.exists_cons_of_ne_nil hd.1
  have h0 : isDigit d = true := hd.2 d (by simp)
  have he := exponentSign_digit sign (d :: ds) hs (by simpa using h0)
  rw [exponent, he]
  simp only [h0, if_true]
  exact exponentDigits_sized _ _ _

theorem fraction_sized (dropped : Nat) {ds e : List UInt8} (hd : Digits ds) (he : Exponent e) :
    Sized (fraction negative significand dropped (ds ++ e)) := by
  have hne : ds.isEmpty = false := by simpa using hd.1
  cases he with
  | none =>
    rw [fraction, List.append_nil, List.takeWhile_eq_self_iff.mpr hd.2,
      List.dropWhile_eq_nil_iff.mpr hd.2]
    simp only [hne]
    exact float_sized _
  | @some mark sign ds' hm hsign hd' =>
    have hstop : ∀ b ∈ (mark :: (sign ++ ds')).head?, isDigit b = false := by
      simpa using (mark_stops mark hm).1
    rw [fraction, takeWhile_digits ds _ hd.2 hstop, dropWhile_digits ds _ hd.2 hstop]
    simp only [hne, hm, if_true]
    exact exponent_sized _ hsign hd'

theorem afterInteger_sized (dropped : Nat) {t : List UInt8} (ht : Tail t) :
    Sized (afterInteger negative significand dropped t) := by
  cases ht with
  | plain he =>
    cases he with
    | none =>
      simp only [afterInteger]
      split_ifs
      · exact sized_ok _ _
      · exact float_sized _
    | @some mark sign ds hm hsign hd =>
      simp only [afterInteger, if_neg (mark_stops mark hm).2, hm, if_true]
      exact exponent_sized _ hsign hd
  | point hd he => exact fraction_sized _ hd he

theorem numeral_sized (negative : Bool) {t : List UInt8} (ht : Numeral t) :
    (∃ x, Reader.number negative t = .ok (x, [])) ∨
      ∃ f, Reader.number negative t = .error f ∧ f.cause = .numberTooLarge := by
  have hsized : Sized (Reader.number negative t) := by
    obtain ⟨hw, htail⟩ := ht
    next ds tail =>
      have hstop := tail_stops htail boundary_nil
      rw [List.append_nil] at hstop
      have htake := takeWhile_digits ds tail hw.1.2 hstop
      have hdrop := dropWhile_digits ds tail hw.1.2 hstop
      obtain ⟨d, ds, rfl⟩ := List.exists_cons_of_ne_nil hw.1.1
      by_cases h0 : d = 0x30
      · subst h0
        obtain rfl : ds = [] := by simpa using hw.2 rfl
        have hafter : Sized (afterInteger negative 0 0 tail) := afterInteger_sized 0 htail
        cases tail with
        | nil => exact hafter
        | cons c cs =>
          have hc : isDigit c = false := hstop c rfl
          simp only [List.cons_append, List.nil_append, Reader.number, if_true, hc]
          exact hafter
      · have hd : isDigit d = true := hw.1.2 d (by simp)
        rw [List.cons_append] at htake hdrop ⊢
        simp only [Reader.number, if_neg h0, hd, if_true, htake, hdrop]
        exact afterInteger_sized _ htail
  cases h : Reader.number negative t with
  | error f => exact Or.inr ⟨f, rfl, hsized f h⟩
  | ok p =>
    obtain ⟨x, rest⟩ := p
    obtain ⟨o, ho⟩ := number_settled negative t ht
    have hnil := ho 0 [] (Nat.le_refl 0) boundary_nil x rest
    rw [List.append_nil] at hnil
    obtain ⟨-, rfl⟩ := hnil.mp h
    exact Or.inl ⟨x, rfl⟩

end Numbers

inductive Quad : List UInt8 → Nat → Prop where
  | mk {a b c d : UInt8} {w x y z : Nat} :
      hexDigit? a = some w → hexDigit? b = some x → hexDigit? c = some y → hexDigit? d = some z →
      Quad [a, b, c, d] (((w * 16 + x) * 16 + y) * 16 + z)

/-- What may follow a backslash, and the character that it names. Half a surrogate pair names
none. -/
inductive Escaped : List UInt8 → Char → Prop where
  | short {b : UInt8} {c : Char} : shortEscape? b = some c → Escaped [b] c
  | unicode {q : List UInt8} {n : Nat} :
      Quad q n → ¬(0xD800 ≤ n ∧ n ≤ 0xDFFF) → Escaped (0x75 :: q) (Char.ofNat n)
  | pair {q q' : List UInt8} {n m : Nat} :
      Quad q n → 0xD800 ≤ n ∧ n ≤ 0xDBFF → Quad q' m → 0xDC00 ≤ m ∧ m ≤ 0xDFFF →
      Escaped (0x75 :: (q ++ 0x5C :: 0x75 :: q'))
        (Char.ofNat (0x10000 + (n - 0xD800) * 0x400 + (m - 0xDC00)))

/-- What stands between the quotes of a string, and the bytes of the text that it stands for. -/
inductive Content : List UInt8 → List UInt8 → Prop where
  | done : Content [] []
  | plain {b : UInt8} {t u : List UInt8} : Plain b → Content t u → Content (b :: t) (b :: u)
  | escaped {e t u : List UInt8} {c : Char} :
      Escaped e c → Content t u → Content (0x5C :: (e ++ t)) (String.utf8EncodeChar c ++ u)

theorem content_plain {t : List UInt8} (h : t.all (fun b => decide (Plain b)) = true) :
    Content t t := by
  induction t with
  | nil => exact .done
  | cons b t ih =>
    rw [List.all_cons, Bool.and_eq_true, decide_eq_true_iff] at h
    exact .plain h.1 (ih h.2)

theorem hexQuad_iff {bs rest : List UInt8} {n : Nat} :
    hexQuad bs = .ok (n, rest) ↔ ∃ q, bs = q ++ rest ∧ Quad q n := by
  constructor
  · intro h
    unfold hexQuad at h
    split at h
    · next a b c d more =>
      split at h
      · next w x y z ha hb hc hd =>
        cases h
        exact ⟨[a, b, c, d], rfl, .mk ha hb hc hd⟩
      · cases h
    · cases h
  · rintro ⟨q, rfl, ha, hb, hc, hd⟩
    simp only [List.cons_append, List.nil_append, hexQuad, ha, hb, hc, hd]

theorem pairMark_iff {b : UInt8} {bs rest : List UInt8} {u : Unit} :
    pairMark b bs = .ok (u, rest) ↔ bs = b :: rest := by
  constructor
  · intro h
    cases bs with
    | nil => cases h
    | cons x bs =>
      simp only [pairMark] at h
      split_ifs at h with hx
      cases h
      rw [hx]
  · rintro rfl
    exact pairMark_same b rest

theorem secondHalf_iff {n : Nat} {bs rest : List UInt8} {c : Char} :
    secondHalf n bs = .ok (c, rest) ↔ ∃ q m, bs = 0x5C :: 0x75 :: (q ++ rest) ∧ Quad q m ∧
      (0xDC00 ≤ m ∧ m ≤ 0xDFFF) ∧
        c = Char.ofNat (0x10000 + (n - 0xD800) * 0x400 + (m - 0xDC00)) := by
  constructor
  · intro h
    obtain ⟨_, mid, hslash, hafter⟩ := bind_eq_ok.mp h
    obtain ⟨_, mid', hu, hlast⟩ := bind_eq_ok.mp hafter
    obtain ⟨m, mid'', hquad, hm⟩ := bind_eq_ok.mp hlast
    obtain ⟨q, hmid, hq⟩ := hexQuad_iff.mp hquad
    have hbs := pairMark_iff.mp hslash
    rw [pairMark_iff.mp hu, hmid] at hbs
    split_ifs at hm with hlow
    · obtain ⟨hc, hrest⟩ := Prod.mk.inj (Except.ok.inj hm)
      rw [hrest] at hbs
      exact ⟨q, m, hbs, hq, hlow, hc.symm⟩
    · cases hm
  · rintro ⟨q, m, rfl, hq, hm, hc⟩
    rw [hc, secondHalf, bind_ok _ (pairMark_same 0x5C _), bind_ok _ (pairMark_same 0x75 _),
      bind_ok _ (hexQuad_iff.mpr ⟨q, rfl, hq⟩), if_pos hm, pure_apply]

theorem unicodeEscape_iff {bs rest : List UInt8} {c : Char} :
    unicodeEscape bs = .ok (c, rest) ↔ ∃ t, bs = t ++ rest ∧ Escaped (0x75 :: t) c := by
  constructor
  · intro h
    obtain ⟨n, mid, hquad, hafter⟩ := bind_eq_ok.mp h
    obtain ⟨q, rfl, hq⟩ := hexQuad_iff.mp hquad
    by_cases hl : 0xDC00 ≤ n ∧ n ≤ 0xDFFF
    · rw [if_pos hl] at hafter
      cases hafter
    · rw [if_neg hl] at hafter
      by_cases hh : 0xD800 ≤ n ∧ n ≤ 0xDBFF
      · rw [if_pos hh] at hafter
        obtain ⟨q', m, rfl, hq', hm, hc⟩ := secondHalf_iff.mp hafter
        rw [hc]
        exact ⟨q ++ 0x5C :: 0x75 :: q', by simp, .pair hq hh hq' hm⟩
      · rw [if_neg hh] at hafter
        cases hafter
        exact ⟨q, rfl, .unicode hq (by omega)⟩
  · rintro ⟨t, rfl, h⟩
    generalize hu : 0x75 :: t = u at h
    cases h with
    | short hb =>
      cases hu
      cases hb
    | @unicode q n hq hn =>
      cases hu
      rw [unicodeEscape, bind_ok _ (hexQuad_iff.mpr ⟨_, rfl, hq⟩), if_neg (by omega),
        if_neg (by omega), pure_apply]
    | @pair q q' n m hq hh hq' hm =>
      cases hu
      rw [unicodeEscape, List.append_assoc, bind_ok _ (hexQuad_iff.mpr ⟨_, rfl, hq⟩),
        if_neg (by omega), if_pos hh]
      exact secondHalf_iff.mpr ⟨q', m, rfl, hq', hm, rfl⟩

theorem escape_iff {bs rest : List UInt8} {c : Char} :
    Reader.escape bs = .ok (c, rest) ↔ ∃ e, bs = e ++ rest ∧ Escaped e c := by
  constructor
  · intro h
    cases bs with
    | nil => cases h
    | cons b bs =>
      cases hb : shortEscape? b with
      | some d =>
        rw [escape_short b d bs hb] at h
        cases h
        exact ⟨[b], rfl, .short hb⟩
      | none =>
        simp only [Reader.escape, hb] at h
        split_ifs at h with hu
        obtain ⟨t, rfl, ht⟩ := unicodeEscape_iff.mp h
        subst hu
        exact ⟨0x75 :: t, rfl, ht⟩
  · rintro ⟨e, rfl, he⟩
    cases he with
    | short hb => exact escape_short _ c _ hb
    | unicode hq hn => exact unicodeEscape_iff.mpr ⟨_, rfl, .unicode hq hn⟩
    | pair hq hh hq' hm => exact unicodeEscape_iff.mpr ⟨_, rfl, .pair hq hh hq' hm⟩

theorem repeatedly_content {t u : List UInt8} (h : Content t u) (acc rest : List UInt8) :
    repeatedly stringStep acc (t ++ 0x22 :: rest) = .ok (acc.reverse ++ u, rest) := by
  induction h generalizing acc with
  | done =>
    rw [List.append_nil]
    exact repeatedly_done rfl
  | @plain b t u hb _ ih =>
    rw [List.cons_append, repeatedly_go stringStep_advances (stringStep_plain acc _ b hb), ih]
    simp
  | @escaped e t u c he _ ih =>
    have hs := stringStep_escape acc _ (t ++ 0x22 :: rest) c (escape_iff.mpr ⟨e, rfl, he⟩)
    rw [List.cons_append, List.append_assoc, repeatedly_go stringStep_advances hs, ih]
    simp

theorem loop_content {g acc bs out rest : List UInt8}
    (h : loop stringStep g acc bs = .ok (out, rest)) :
    ∃ t u, bs = t ++ 0x22 :: rest ∧ Content t u ∧ out = acc.reverse ++ u := by
  apply loop_induct (P := fun acc bs out rest =>
    ∃ t u, bs = t ++ 0x22 :: rest ∧ Content t u ∧ out = acc.reverse ++ u) ?_ h
  intro acc bs r left out rest hs hafter
  cases bs with
  | nil => cases hs
  | cons b bs =>
    by_cases hq : b = 0x22
    · subst hq
      cases hs
      obtain ⟨rfl, rfl⟩ := hafter
      exact ⟨[], [], rfl, .done, (List.append_nil _).symm⟩
    · by_cases he : b = 0x5C
      · subst he
        cases hc : Reader.escape bs with
        | error e => simp [stringStep, hc] at hs
        | ok p =>
          obtain ⟨c, more⟩ := p
          rw [stringStep_escape acc bs more c hc] at hs
          cases hs
          obtain ⟨e, rfl, hesc⟩ := escape_iff.mp hc
          obtain ⟨t, u, rfl, ht, rfl⟩ := hafter
          exact ⟨0x5C :: (e ++ t), _, by simp, .escaped hesc ht, by simp⟩
      · by_cases hl : b < 0x20
        · simp [stringStep, hq, he, hl] at hs
        · have hb : Plain b := ⟨UInt8.not_lt.mp hl, hq, he⟩
          rw [stringStep_plain acc bs b hb] at hs
          cases hs
          obtain ⟨t, u, rfl, ht, rfl⟩ := hafter
          exact ⟨b :: t, b :: u, rfl, .plain hb ht, by simp⟩

theorem string_iff {bs rest : List UInt8} {s : String} :
    Reader.string bs = .ok (s, rest) ↔
      ∃ t u, bs = t ++ 0x22 :: rest ∧ Content t u ∧ Utf8.string? u = some s := by
  rw [Reader.string, bind_eq_ok]
  constructor
  · rintro ⟨raw, mid, hr, h⟩
    obtain ⟨t, _, rfl, ht, rfl⟩ := loop_content hr
    cases hs : Utf8.string? raw with
    | none =>
      rw [hs] at h
      cases h
    | some x =>
      rw [hs] at h
      cases h
      exact ⟨t, raw, rfl, ht, hs⟩
  · rintro ⟨t, u, rfl, ht, hs⟩
    refine ⟨u, rest, repeatedly_content ht [] rest, ?_⟩
    rw [hs]
    rfl

theorem quad_digits {q : List UInt8} {n : Nat} (h : Quad q n) : ∃ a b c d, q = [a, b, c, d] ∧
    ∀ x ∈ [a, b, c, d], (hexDigit? x).isSome = true := by
  obtain ⟨ha, hb, hc, hd⟩ := h
  exact ⟨_, _, _, _, rfl, by simp [ha, hb, hc, hd]⟩

theorem quad_body {q t : List UInt8} {n : Nat} (hq : Quad q n) (ht : Body t) :
    Body (0x5C :: 0x75 :: (q ++ t)) := by
  obtain ⟨a, b, c, d, rfl, hx⟩ := quad_digits hq
  exact .unicode hx ht

theorem escaped_body {e t : List UInt8} {c : Char} (he : Escaped e c) (ht : Body t) :
    Body (0x5C :: (e ++ t)) := by
  cases he with
  | short hb => exact .short (by rw [hb]; rfl) ht
  | unicode hq _ => exact quad_body hq ht
  | pair hq _ hq' _ =>
    rw [List.cons_append, List.append_assoc]
    exact quad_body hq (quad_body hq' ht)

theorem content_body {t u : List UInt8} (h : Content t u) : Body t := by
  induction h with
  | done => exact .done
  | plain hb _ ih => exact .plain hb ih
  | escaped he _ ih => exact escaped_body he ih

end RestGateway.Json.Grammar

import RestGateway.Proofs.Json.SkippedScalars

/-!
# Passing over a value

A value that nobody asked for is passed over without being kept: any value of the grammar, whatever
its depth, the size of its numbers and the characters that its strings name. Between two rounds the
brackets that are open tell how the rest of the text has to go on.
-/

set_option autoImplicit false

namespace RestGateway.Json.Grammar
open Reader

def opening : Bracket → UInt8
  | .square => 0x5B
  | .curly => 0x7B

def content : Bracket → Bool → Kind
  | .square => .items
  | .curly => .members

/-- What precedes an element's value: its separator and, in an object, its name and the colon. -/
inductive Lead : Bracket → Bool → List UInt8 → Prop where
  | square {initial : Bool} {c : List UInt8} : Comma initial c → Lead .square initial c
  | curly {initial : Bool} {c k w w' : List UInt8} :
      Comma initial c → Body k → Blanks w → Blanks w' →
      Lead .curly initial (c ++ 0x22 :: (k ++ 0x22 :: (w ++ 0x3A :: w')))

theorem phrase_opened {k : Bracket} {n : Nat} {t : List UInt8} (h : Phrase (content k true) n t) :
    Phrase .value (n + 1) (opening k :: t) := by
  cases k with
  | square => exact .list h
  | curly => exact .object h

theorem phrase_closed {k : Bracket} {initial : Bool} {n : Nat} {w : List UInt8} (hw : Blanks w) :
    Phrase (content k initial) n (w ++ [k.close]) := by
  cases k with
  | square => exact .listEnd hw
  | curly => exact .objectEnd hw

theorem Lead.element {k : Bracket} {initial : Bool} {n : Nat} {c v t : List UInt8}
    (hc : Lead k initial c) (hv : Phrase .value n v) (ht : Phrase (content k false) n t) :
    Phrase (content k initial) n (c ++ (v ++ t)) := by
  cases hc with
  | square hc => exact .item hc hv ht
  | curly hc hk hw hw' =>
    have hm := Phrase.member hc hk hw hw' hv ht
    simpa [content] using hm

theorem Lead.blanks {k : Bracket} {initial : Bool} {c w : List UInt8} (hc : Lead k initial c)
    (hw : Blanks w) : Lead k initial (c ++ w) := by
  cases hc with
  | square hc => exact .square (comma_blanks hc hw)
  | curly hc hk hv hv' => simpa using Lead.curly hc hk hv (List.forall_mem_append.mpr ⟨hv', hw⟩)

theorem ofOpen_iff {b : UInt8} {k : Bracket} : Bracket.ofOpen? b = some k ↔ b = opening k := by
  unfold Bracket.ofOpen?
  cases k <;> split_ifs <;> simp_all [opening]

theorem skipName_cut {k : Bracket} {initial : Bool} {c bs mid : List UInt8} {u : Unit}
    (hc : Comma initial c) (h : skipName k bs = .ok (u, mid)) :
    ∃ e, bs = e ++ mid ∧ Lead k initial (c ++ e) := by
  cases k with
  | square =>
    cases h
    exact ⟨[], rfl, by simpa using Lead.square hc⟩
  | curly =>
    rw [skipName] at h
    obtain ⟨o, mid', hf, hb⟩ := bind_eq_ok.mp h
    obtain ⟨w, hw, rfl⟩ := first_cut hf
    cases o with
    | none => cases hb
    | some b =>
      obtain ⟨more, rfl⟩ := first_some _ _ _ hf
      dsimp only at hb
      split_ifs at hb with hq
      · subst hq
        rw [bind_ok _ (drop_cons 0x22 more)] at hb
        obtain ⟨_, mid', hs, hcolon⟩ := bind_eq_ok.mp hb
        obtain ⟨t, rfl, ht⟩ := skipString_iff.mp hs
        obtain ⟨w', hw', rfl⟩ := colon_cut hcolon
        refine ⟨w ++ 0x22 :: (t ++ 0x22 :: (w' ++ [0x3A])), by simp, ?_⟩
        simpa using Lead.curly (comma_blanks hc hw) ht hw' blank_nil
      · cases hb

/-- What closes the open brackets, the innermost first. -/
inductive Closes : List Bracket → List UInt8 → Prop where
  | nil : Closes [] []
  | cons {k : Bracket} {ks : List Bracket} {n : Nat} {t s : List UInt8} :
      Phrase (content k false) n t → Closes ks s → Closes (k :: ks) (t ++ s)

inductive ValueCloses (ks : List Bracket) : List UInt8 → Prop where
  | mk {n : Nat} {w v s : List UInt8} :
      Blanks w → Phrase .value n v → Closes ks s → ValueCloses ks (w ++ (v ++ s))

/-- What a text goes on with from where skipping stands. -/
def Completes (s : Skipping) (t : List UInt8) : Prop :=
  match s.atValue, s.opened with
  | false, k :: ks => Closes (k :: ks) t
  | _, ks => ValueCloses ks t

def Continues : Skipping ⊕ Unit → List UInt8 → Prop := Sum.elim Completes fun _ t => t = []

theorem continues_closed {ks : List Bracket} {t : List UInt8}
    (h : Continues (Skipping.closed ks) t) : Closes ks t := by
  cases ks with
  | nil =>
    obtain rfl : t = [] := h
    exact .nil
  | cons k ks => exact h

theorem Lead.closes {k : Bracket} {ks : List Bracket} {initial : Bool} {c t : List UInt8}
    (hc : Lead k initial c) (ht : ValueCloses (k :: ks) t) :
    ∃ n u s, c ++ t = u ++ s ∧ Phrase (content k initial) n u ∧ Closes ks s := by
  obtain ⟨hw, hv, hs⟩ := ht
  next n w v s =>
    cases hs with
    | @cons _ _ m u s hu hs =>
      have hv := hv.mono (Nat.le_max_left n m)
      have hu := hu.mono (Nat.le_max_right n m)
      exact ⟨max n m, _, s, by simp, (hc.blanks hw).element hv hu, hs⟩

theorem skipValueStep_cut {ks : List Bracket} {bs mid : List UInt8} {r : Skipping ⊕ Unit}
    (h : skipValueStep ks bs = .ok (r, mid)) :
    ∃ p, bs = p ++ mid ∧ p ≠ [] ∧ ∀ t, Continues r t → ValueCloses ks (p ++ t) := by
  rw [skipValueStep] at h
  obtain ⟨b, mid', hb, hv⟩ := bind_eq_ok.mp h
  obtain ⟨w, hw, rfl⟩ := begin_cut hb
  obtain ⟨more, rfl⟩ := first_some _ _ _ (first_begin hb)
  cases hopen : Bracket.ofOpen? b with
  | none =>
    rw [hopen] at hv
    obtain ⟨_, mid', hs, hv⟩ := bind_eq_ok.mp hv
    cases hv
    obtain ⟨v, hmore, hphrase⟩ := skipScalar_cut hs
    obtain ⟨x, y, rfl, -⟩ := value_begins hphrase
    refine ⟨w ++ x :: y, by rw [hmore, List.append_assoc], by simp, fun t ht => ?_⟩
    rw [List.append_assoc]
    exact .mk hw hphrase (continues_closed ht)
  | some k =>
    obtain rfl := ofOpen_iff.mp hopen
    rw [hopen] at hv
    dsimp only at hv
    rw [bind_ok _ (drop_cons _ more)] at hv
    obtain ⟨o, mid', hf, hc⟩ := bind_eq_ok.mp hv
    obtain ⟨w', hw', rfl⟩ := first_cut hf
    cases o with
    | none => cases hc
    | some c =>
      obtain ⟨more, rfl⟩ := first_some _ _ _ hf
      dsimp only at hc
      split_ifs at hc with hclose
      · subst hclose
        cases hc
        refine ⟨w ++ opening k :: (w' ++ [k.close]), by simp, by simp, fun t ht => ?_⟩
        rw [List.append_assoc]
        exact .mk hw (phrase_opened (phrase_closed (n := 0) hw')) (continues_closed ht)
      · obtain ⟨_, mid', hn, hc⟩ := bind_eq_ok.mp hc
        cases hc
        obtain ⟨e, he, hlead⟩ := skipName_cut (.first hw') hn
        refine ⟨w ++ opening k :: (w' ++ e), by simp [he], by simp, fun t ht => ?_⟩
        obtain ⟨n, u, s, hus, hu, hs⟩ := hlead.closes ht
        rw [List.append_assoc, List.cons_append, hus, ← List.cons_append]
        exact .mk hw (phrase_opened hu) hs

theorem skipStep_cut {s : Skipping} {bs mid : List UInt8} {r : Skipping ⊕ Unit}
    (h : skipStep s bs = .ok (r, mid)) :
    ∃ p, bs = p ++ mid ∧ p ≠ [] ∧ ∀ t, Continues r t → Completes s (p ++ t) := by
  obtain ⟨atValue, opened⟩ := s
  cases atValue with
  | true => exact skipValueStep_cut h
  | false =>
    cases opened with
    | nil => exact skipValueStep_cut h
    | cons k ks =>
      simp only [skipStep] at h
      obtain ⟨o, mid', hf, hc⟩ := bind_eq_ok.mp h
      obtain ⟨w, hw, rfl⟩ := first_cut hf
      cases o with
      | none => cases hc
      | some c =>
        obtain ⟨more, rfl⟩ := first_some _ _ _ hf
        dsimp only at hc
        split_ifs at hc with hcomma hclose
        · subst hcomma
          rw [bind_ok _ (drop_cons 0x2C more)] at hc
          obtain ⟨_, mid', hn, hc⟩ := bind_eq_ok.mp hc
          cases hc
          obtain ⟨e, rfl, hlead⟩ := skipName_cut (.later hw blank_nil) hn
          refine ⟨w ++ 0x2C :: [] ++ e, by simp, by simp, fun t ht => ?_⟩
          obtain ⟨n, u, s, hus, hu, hs⟩ := hlead.closes ht
          rw [hus]
          exact .cons hu hs
        · subst hclose
          cases hc
          refine ⟨w ++ [k.close], by simp, by simp, fun t ht => ?_⟩
          exact .cons (phrase_closed (n := 0) hw) (continues_closed ht)
        · cases hc

theorem skipStep_advances : Advances skipStep := by
  apply advances_of_cut
  intro s bs next rest h
  obtain ⟨p, hbs, hp, -⟩ := skipStep_cut h
  exact ⟨p, hbs, hp⟩

theorem loop_skip_cut {g bs rest : List UInt8} {s : Skipping} {u : Unit}
    (h : loop skipStep g s bs = .ok (u, rest)) : ∃ t, bs = t ++ rest ∧ Completes s t := by
  apply loop_induct (P := fun s bs _ rest => ∃ t, bs = t ++ rest ∧ Completes s t) ?_ h
  intro s bs r left u rest hs hafter
  obtain ⟨p, rfl, -, hp⟩ := skipStep_cut hs
  cases r with
  | inr result =>
    obtain ⟨-, rfl⟩ := hafter
    exact ⟨p, rfl, by simpa using hp [] rfl⟩
  | inl next =>
    obtain ⟨t, rfl, ht⟩ := hafter
    exact ⟨p ++ t, (List.append_assoc _ _ _).symm, hp t ht⟩

def skipOn : Skipping ⊕ Unit → Reader Unit
  | .inl next => repeatedly skipStep next
  | .inr _ => pure ()

theorem repeatedly_skip {s : Skipping} {bs mid : List UInt8} {r : Skipping ⊕ Unit}
    (h : skipStep s bs = .ok (r, mid)) : repeatedly skipStep s bs = skipOn r mid := by
  cases r with
  | inl next => exact repeatedly_go skipStep_advances h
  | inr u => exact repeatedly_done h

def within {α : Type} (r : Skipping → Reader α) (k : Bracket) (ks : List Bracket) : Bool → Reader α
  | true => fun bs => r ⟨true, ks⟩ (opening k :: bs)
  | false => r ⟨false, k :: ks⟩

theorem within_go {k : Bracket} {ks : List Bracket} {initial : Bool} {bs mid : List UInt8}
    {r : Skipping ⊕ Unit} (h : within skipStep k ks initial bs = .ok (r, mid)) :
    within (repeatedly skipStep) k ks initial bs = skipOn r mid := by
  cases initial <;> exact repeatedly_skip h

theorem skipStep_scalar {ks : List Bracket} {b : UInt8} {more s : List UInt8}
    (hb : isBlank b = false) (ho : Bracket.ofOpen? b = none)
    (h : skipScalar b (b :: more) = .ok ((), s)) :
    skipStep ⟨true, ks⟩ (b :: more) = .ok (Skipping.closed ks, s) := by
  simp only [skipStep]
  rw [skipValueStep, bind_ok _ (begin_cons b more hb), ho]
  exact bind_ok _ h

section Opened

variable {k : Bracket} {ks : List Bracket} {w : List UInt8} (hw : Blanks w)

include hw

theorem within_first {b : UInt8} {more : List UInt8} (hb : isBlank b = false) :
    within skipStep k ks true (w ++ b :: more) =
      (if b = k.close then drop >>= fun _ => pure (Skipping.closed ks)
        else skipName k >>= fun _ => pure (.inl ⟨true, k :: ks⟩)) (b :: more) := by
  have ho : isBlank (opening k) = false := by cases k <;> rfl
  simp only [within, skipStep]
  rw [skipValueStep, bind_ok _ (begin_cons _ _ ho), ofOpen_iff.mpr rfl]
  dsimp only
  rw [bind_ok _ (drop_cons _ _), bind_ok _ ((first_blank w _ hw).trans (first_cons b more hb))]

theorem within_later {b : UInt8} {more : List UInt8} (hb : isBlank b = false) :
    within skipStep k ks false (w ++ b :: more) =
      (if b = 0x2C then drop >>= fun _ => skipName k >>= fun _ => pure (.inl ⟨true, k :: ks⟩)
        else if b = k.close then drop >>= fun _ => pure (Skipping.closed ks)
        else failAhead k.goesOn) (b :: more) := by
  simp only [within, skipStep]
  rw [bind_ok _ ((first_blank w _ hw).trans (first_cons b more hb))]

theorem within_closed {initial : Bool} (s : List UInt8) :
    within skipStep k ks initial (w ++ k.close :: s) = .ok (Skipping.closed ks, s) := by
  have hb : isBlank k.close = false := by cases k <;> rfl
  have hc : k.close ≠ 0x2C := by cases k <;> decide
  cases initial with
  | true =>
    rw [within_first hw hb, if_pos rfl]
    rfl
  | false =>
    rw [within_later hw hb, if_neg hc, if_pos rfl]
    rfl

theorem skipName_curly {t w' : List UInt8} (ht : Body t) (hw' : Blanks w') (bs : List UInt8) :
    skipName .curly (w ++ 0x22 :: (t ++ 0x22 :: (w' ++ 0x3A :: bs))) = .ok ((), bs) := by
  rw [skipName, bind_ok _ ((first_blank w _ hw).trans (first_cons 0x22 _ (by decide)))]
  dsimp only
  rw [if_pos rfl, bind_ok _ (drop_cons _ _), bind_ok _ (body_skipped ht _)]
  exact colon_blank w' bs hw'

end Opened

theorem Lead.within {k : Bracket} {initial : Bool} {c bs : List UInt8} (hc : Lead k initial c)
    (ks : List Bracket) (hb : ∃ b more, bs = b :: more ∧ isBlank b = false ∧ b ≠ 0x5D) :
    ∃ w, Blanks w ∧
      within skipStep k ks initial (c ++ bs) = .ok (.inl ⟨true, k :: ks⟩, w ++ bs) := by
  obtain ⟨b, more, rfl, hblank, hne⟩ := hb
  cases hc with
  | square hc =>
    cases hc with
    | first hw =>
      refine ⟨[], blank_nil, ?_⟩
      have hclose : b ≠ Bracket.square.close := hne
      rw [within_first hw hblank, if_neg hclose]
      rfl
    | @later w w' hw hw' =>
      refine ⟨w', hw', ?_⟩
      rw [List.append_assoc, List.cons_append, within_later hw (by decide), if_pos rfl]
      rfl
  | @curly _ c t w w' hc ht hw hw' =>
    refine ⟨w', hw', ?_⟩
    cases hc with
    | first hv =>
      simp only [List.append_assoc, List.cons_append]
      rw [within_first hv (by decide), if_neg (by decide)]
      exact bind_ok _ (skipName_curly blank_nil ht hw _)
    | later hv hv' =>
      simp only [List.append_assoc, List.cons_append]
      rw [within_later hv (by decide), if_pos rfl, bind_ok _ (drop_cons _ _)]
      exact bind_ok _ (skipName_curly hv' ht hw _)

theorem repeatedly_blank {ks : List Bracket} {w bs : List UInt8} (hw : Blanks w) :
    repeatedly skipStep ⟨true, ks⟩ (w ++ bs) = repeatedly skipStep ⟨true, ks⟩ bs := by
  have hs : skipStep ⟨true, ks⟩ (w ++ bs) = skipStep ⟨true, ks⟩ bs :=
    bind_blank _ w bs (begin_blank w bs hw)
  cases h : skipStep ⟨true, ks⟩ bs with
  | error e => rw [repeatedly_error h, repeatedly_error (hs.trans h)]
  | ok p => rw [repeatedly_skip h, repeatedly_skip (hs.trans h)]

def Kind.Skipped : Kind → List UInt8 → Prop
  | .value => fun v => ∀ ks s, Boundary s →
    repeatedly skipStep ⟨true, ks⟩ (v ++ s) = skipOn (Skipping.closed ks) s
  | .items initial => fun t => ∀ ks s,
    within (repeatedly skipStep) .square ks initial (t ++ s) = skipOn (Skipping.closed ks) s
  | .members initial => fun t => ∀ ks s,
    within (repeatedly skipStep) .curly ks initial (t ++ s) = skipOn (Skipping.closed ks) s

theorem scalar_skipped {b : UInt8} {v : List UInt8} (hb : isBlank b = false)
    (ho : Bracket.ofOpen? b = none)
    (h : ∀ s, Boundary s → skipScalar b (b :: (v ++ s)) = .ok ((), s)) :
    Kind.value.Skipped (b :: v) := fun _ s hs => repeatedly_skip (skipStep_scalar hb ho (h s hs))

theorem element_skipped {k : Bracket} {initial : Bool} {n : Nat} {c v t : List UInt8}
    (hc : Lead k initial c) (hv : Phrase .value n v) (hb : ∀ s, Boundary (t ++ s))
    (ihv : Kind.value.Skipped v)
    (iht : ∀ ks s, within (repeatedly skipStep) k ks false (t ++ s) =
      skipOn (Skipping.closed ks) s) (ks : List Bracket) (s : List UInt8) :
    within (repeatedly skipStep) k ks initial (c ++ (v ++ t) ++ s) =
      skipOn (Skipping.closed ks) s := by
  have hbegins : ∃ b more, v ++ (t ++ s) = b :: more ∧ isBlank b = false ∧ b ≠ 0x5D := by
    obtain ⟨b, more, rfl, hb⟩ := value_begins hv
    exact ⟨b, more ++ (t ++ s), rfl, hb⟩
  obtain ⟨w, hw, hstep⟩ := hc.within ks hbegins
  calc within (repeatedly skipStep) k ks initial (c ++ (v ++ t) ++ s)
      = within (repeatedly skipStep) k ks initial (c ++ (v ++ (t ++ s))) := by
        simp only [List.append_assoc]
    _ = repeatedly skipStep ⟨true, k :: ks⟩ (w ++ (v ++ (t ++ s))) := within_go hstep
    _ = repeatedly skipStep ⟨true, k :: ks⟩ (v ++ (t ++ s)) := repeatedly_blank hw
    _ = skipOn (Skipping.closed (k :: ks)) (t ++ s) := ihv _ _ (hb s)
    _ = skipOn (Skipping.closed ks) s := iht ks s

theorem number_skipped {t : List UInt8} (ht : Numeral t) : Kind.value.Skipped t := by
  obtain ⟨b, more, rfl, hb⟩ := numeral_digit ht
  have hne (c : UInt8) (hc : isDigit c = false) : b ≠ c := digit_ne hb hc
  have hscalar : skipScalar b = skipNumber := by
    rw [skipScalar, if_neg (hne _ rfl), if_neg (hne _ rfl), if_neg (hne _ rfl), if_neg (hne _ rfl),
      if_neg (hne _ rfl), if_pos hb]
  have hopen : Bracket.ofOpen? b = none := by
    rw [Bracket.ofOpen?, if_neg (hne _ rfl), if_neg (hne _ rfl)]
  apply scalar_skipped (digit_blank hb) hopen
  intro s hs
  rw [hscalar]
  exact numeral_skipped ht hs

theorem string_skipped {t : List UInt8} (ht : Body t) :
    Kind.value.Skipped (0x22 :: (t ++ [0x22])) := by
  apply scalar_skipped rfl rfl
  intro s _
  rw [List.append_assoc]
  exact body_skipped ht s

theorem end_skipped {k : Bracket} {initial : Bool} {w : List UInt8} (hw : Blanks w)
    (ks : List Bracket) (s : List UInt8) :
    within (repeatedly skipStep) k ks initial (w ++ [k.close] ++ s) =
      skipOn (Skipping.closed ks) s := by
  rw [List.append_assoc]
  exact within_go (within_closed hw s)

/-- Every phrase is passed over: by induction on the phrase, with any brackets open around it. -/
theorem phrase_skipped {k : Kind} {n : Nat} {t : List UInt8} (h : Phrase k n t) : k.Skipped t := by
  induction h with
  | null => exact scalar_skipped rfl rfl fun s _ => keyword_append restOfNull s
  | true => exact scalar_skipped rfl rfl fun s _ => keyword_append restOfTrue s
  | false => exact scalar_skipped rfl rfl fun s _ => keyword_append restOfFalse s
  | number ht => exact number_skipped ht
  | negative ht => exact scalar_skipped rfl rfl fun s hs => numeral_skipped ht hs
  | string ht => exact string_skipped ht
  | list _ ih => exact fun ks s _ => ih ks s
  | object _ ih => exact fun ks s _ => ih ks s
  | listEnd hw => exact end_skipped (k := .square) hw
  | item hc hv ht ihv iht => exact element_skipped (.square hc) hv (items_boundary ht) ihv iht
  | objectEnd hw => exact end_skipped (k := .curly) hw
  | member hc hk hw hw' hv ht ihv iht =>
    intro ks s
    have hm := element_skipped (.curly hc hk hw hw') hv (members_boundary ht) ihv iht ks s
    simpa using hm

theorem skip_cut {bs rest : List UInt8} {u : Unit} (h : skip bs = .ok (u, rest)) :
    ∃ n w v, bs = w ++ (v ++ rest) ∧ Blanks w ∧ Phrase .value n v := by
  obtain ⟨t, rfl, hw, hv, hnil⟩ := loop_skip_cut h
  next n w v s =>
    cases hnil
    exact ⟨n, w, v, by simp, hw, hv⟩

/-- Before a boundary exactly a value of the grammar is passed over, with the blanks before it. -/
theorem skip_iff {bs rest : List UInt8} (hs : Boundary rest) :
    skip bs = .ok ((), rest) ↔ ∃ n w v, bs = w ++ (v ++ rest) ∧ Blanks w ∧ Phrase .value n v := by
  constructor
  · exact skip_cut
  · rintro ⟨n, w, v, rfl, hw, hv⟩
    rw [skip, repeatedly_blank hw]
    exact phrase_skipped hv [] rest hs

end RestGateway.Json.Grammar

import RestGateway.Proofs.Json.Phrases
import RestGateway.Proofs.Json.Scalars

/-!
# What JSON text stands for

The grammar once more, now with the value that each phrase stands for. A phrase stands for nothing
when it names half a surrogate pair or a number that no double holds. The readers find a value in a
text exactly if the text stands for it.
-/

set_option autoImplicit false

namespace RestGateway.Json.Grammar
open Reader

/-- A text that opens at most `n` lists and objects at once, with what it stands for. -/
inductive Spells : (k : Kind) → Nat → List UInt8 → k.Result → Prop where
  | null {n : Nat} : Spells .value n (0x6E :: restOfNull) Json.null
  | true {n : Nat} : Spells .value n (0x74 :: restOfTrue) (Json.bool Bool.true)
  | false {n : Nat} : Spells .value n (0x66 :: restOfFalse) (Json.bool Bool.false)
  | number {n : Nat} {t : List UInt8} {x : Number} :
      Numeral t → Reader.number Bool.false t = .ok (x, []) → Spells .value n t (Json.number x)
  | negative {n : Nat} {t : List UInt8} {x : Number} :
      Numeral t → Reader.number Bool.true t = .ok (x, []) →
      Spells .value n (0x2D :: t) (Json.number x)
  | string {n : Nat} {t u : List UInt8} {s : String} :
      Content t u → Utf8.string? u = some s →
      Spells .value n (0x22 :: (t ++ [0x22])) (Json.string s)
  | list {n : Nat} {t : List UInt8} {vs : List Json} :
      Spells (.items Bool.true) n t vs → Spells .value (n + 1) (0x5B :: t) (Json.list vs)
  | object {n : Nat} {t : List UInt8} {ps : List (String × Json)} :
      Spells (.members Bool.true) n t ps →
      Spells .value (n + 1) (0x7B :: t) (Json.object (Members.ofPairs ps))
  | listEnd {n : Nat} {initial : Bool} {w : List UInt8} :
      Blanks w → Spells (.items initial) n (w ++ [0x5D]) ([] : List Json)
  | item {n : Nat} {initial : Bool} {c v t : List UInt8} {a : Json} {vs : List Json} :
      Comma initial c → Spells .value n v a → Spells (.items Bool.false) n t vs →
      Spells (.items initial) n (c ++ (v ++ t)) (a :: vs)
  | objectEnd {n : Nat} {initial : Bool} {w : List UInt8} :
      Blanks w → Spells (.members initial) n (w ++ [0x7D]) ([] : List (String × Json))
  | member {n : Nat} {initial : Bool} {c k u w w' v t : List UInt8} {name : String} {a : Json}
      {ps : List (String × Json)} :
      Comma initial c → Content k u → Utf8.string? u = some name → Blanks w → Blanks w' →
      Spells .value n v a → Spells (.members Bool.false) n t ps →
      Spells (.members initial) n
        (c ++ 0x22 :: (k ++ 0x22 :: (w ++ 0x3A :: (w' ++ (v ++ t))))) ((name, a) :: ps)

theorem Spells.phrase {k : Kind} {n : Nat} {t : List UInt8} {r : k.Result} (h : Spells k n t r) :
    Phrase k n t := by
  induction h with
  | null => exact .null
  | true => exact .true
  | false => exact .false
  | number ht _ => exact .number ht
  | negative ht _ => exact .negative ht
  | string ht _ => exact .string (content_body ht)
  | list _ ih => exact .list ih
  | object _ ih => exact .object ih
  | listEnd hw => exact .listEnd hw
  | item hc _ _ ihv iht => exact .item hc ihv iht
  | objectEnd hw => exact .objectEnd hw
  | member hc hk _ hw hw' _ _ ihv iht => exact .member hc (content_body hk) hw hw' ihv iht

theorem named_spelled {k u w w' bs more : List UInt8} {depth : Nat} {name : String} {a : Json}
    (hk : Content k u) (hu : Utf8.string? u = some name) (hw : Blanks w) (hw' : Blanks w')
    (hv : value depth bs = .ok (a, more)) :
    Named (value depth) (k ++ 0x22 :: (w ++ 0x3A :: (w' ++ bs))) name a more := by
  refine ⟨_, _, string_iff.mpr ⟨k, u, rfl, hk, hu⟩, colon_blank w _ hw, ?_⟩
  rwa [value_blank depth w' bs hw']

/-- By induction on the phrase: what follows an element is none that could lengthen a number. -/
theorem Spells.found {k : Kind} {n : Nat} {t : List UInt8} {r : k.Result} (h : Spells k n t r)
    {s : List UInt8} (hs : Boundary s) : k.Found n (t ++ s) r s := by
  induction h generalizing s with
  | null => exact value_null _ s
  | true => exact value_true _ s
  | false => exact value_false _ s
  | @number n t x ht hx =>
    obtain ⟨b, more, rfl, hb⟩ := numeral_digit ht
    have hn := (number_iff hs).mpr ⟨b :: more, rfl, ht, hx⟩
    exact (value_digit hb).trans (bind_ok _ hn)
  | @negative n t x ht hx =>
    have hn := (number_iff hs).mpr ⟨t, rfl, ht, hx⟩
    exact value_minus.trans (bind_ok _ hn)
  | @string n t u x ht hx =>
    have hq : Reader.string (t ++ 0x22 :: s) = .ok (x, s) := string_iff.mpr ⟨t, u, rfl, ht, hx⟩
    change value n (0x22 :: (t ++ [0x22] ++ s)) = _
    rw [List.append_assoc, List.singleton_append, value_quote]
    exact bind_ok _ hq
  | list _ ih => exact value_list.mpr ⟨_, rfl, ih hs⟩
  | object _ ih => exact value_object.mpr ⟨_, rfl, ih hs⟩
  | @listEnd n initial w hw =>
    change Items (value n) initial (w ++ [0x5D] ++ s) [] s
    rw [List.append_assoc]
    exact (items_close hw).mpr ⟨rfl, rfl⟩
  | @item n initial c v t a vs hc hv ht ihv iht =>
    obtain ⟨b, more, hbegin, hb⟩ := value_begins hv.phrase
    have hnext : ∃ b more, v ++ (t ++ s) = b :: more ∧ isBlank b = Bool.false ∧ b ≠ 0x5D :=
      ⟨b, more ++ (t ++ s), by rw [hbegin]; rfl, hb⟩
    change Items (value n) initial (c ++ (v ++ t) ++ s) (a :: vs) s
    rw [List.append_assoc, List.append_assoc, items_comma hc hnext]
    exact ⟨a, vs, t ++ s, rfl, ihv (items_boundary ht.phrase s), iht hs⟩
  | @objectEnd n initial w hw =>
    change Pairs (value n) initial (w ++ [0x7D] ++ s) [] s
    rw [List.append_assoc]
    exact (pairs_close hw).mpr ⟨rfl, rfl⟩
  | @member n initial c k u w w' v t name a ps hc hk hu hw hw' hv ht ihv iht =>
    change Pairs (value n) initial
      (c ++ 0x22 :: (k ++ 0x22 :: (w ++ 0x3A :: (w' ++ (v ++ t)))) ++ s) ((name, a) :: ps) s
    simp only [List.append_assoc, List.cons_append]
    have hn := named_spelled hk hu hw hw' (ihv (members_boundary ht.phrase s))
    exact (pairs_comma hc).mpr ⟨name, a, t ++ s, ps, rfl, hn, iht hs⟩

theorem first_cut {bs mid : List UInt8} {o : Option UInt8} (h : first bs = .ok (o, mid)) :
    ∃ w, Blanks w ∧ bs = w ++ mid := by
  cases h
  exact ⟨bs.takeWhile isBlank, fun _ hb => List.mem_takeWhile_imp hb,
    List.takeWhile_append_dropWhile.symm⟩

theorem begin_cut {bs mid : List UInt8} {b : UInt8} (h : begin bs = .ok (b, mid)) :
    ∃ w, Blanks w ∧ bs = w ++ mid := first_cut (first_begin h)

theorem keyword_cut {ks bs rest : List UInt8} {u : Unit} (h : keyword ks bs = .ok (u, rest)) :
    bs = ks ++ rest := by
  induction ks generalizing bs with
  | nil =>
    cases h
    rfl
  | cons k ks ih =>
    cases bs with
    | nil => cases h
    | cons b bs =>
      simp only [keyword] at h
      split_ifs at h with hb
      rw [hb, ih h]
      rfl

theorem comma_blanks {initial : Bool} {c w : List UInt8} (hc : Comma initial c) (hw : Blanks w) :
    Comma initial (c ++ w) := by
  have happend {v : List UInt8} (hv : Blanks v) : Blanks (v ++ w) :=
    List.forall_mem_append.mpr ⟨hv, hw⟩
  cases hc with
  | first hv => exact .first (happend hv)
  | later hv hv' =>
    rw [List.append_assoc]
    exact .later hv (happend hv')

theorem hasElement_cut {initial : Bool} {bs mid : List UInt8}
    (h : hasElement initial bs = .ok (true, mid)) : ∃ c, Comma initial c ∧ bs = c ++ mid := by
  rw [hasElement] at h
  obtain ⟨o, mid', hf, hb⟩ := bind_eq_ok.mp h
  obtain ⟨w, hw, rfl⟩ := first_cut hf
  cases o with
  | none => cases hb
  | some b =>
    dsimp only at hb
    split_ifs at hb with hclose hinitial hcomma
    · cases hb
    · cases hb
      subst hinitial
      exact ⟨w, .first hw, rfl⟩
    · obtain ⟨more, rfl⟩ := first_some _ _ _ hf
      obtain ⟨_, rest, hdrop, hc⟩ := bind_eq_ok.mp hb
      cases hdrop
      obtain ⟨o', mid'', hf', hc'⟩ := bind_eq_ok.mp hc
      obtain ⟨w', hw', hmore⟩ := first_cut hf'
      cases o' with
      | none => cases hc'
      | some c =>
        dsimp only at hc'
        split_ifs at hc'
        · cases hc'
        · cases hc'
          obtain rfl : initial = false := by simpa using hinitial
          exact ⟨w ++ 0x2C :: w', .later hw hw', by simp [hcomma, ← hmore]⟩
    · cases hb

theorem quoted_cut {mid rest : List UInt8} {name : String}
    (h : (drop >>= fun _ => Reader.string >>= fun s => (pure (some s) : Reader (Option String)))
      (0x22 :: mid) = .ok (some name, rest)) : Reader.string mid = .ok (name, rest) := by
  rw [bind_ok _ (drop_cons 0x22 mid)] at h
  obtain ⟨s, hs, hr⟩ := map_ok.mp h
  cases hs
  exact hr

theorem memberName_cut {initial : Bool} {bs rest : List UInt8} {name : String}
    (h : memberName? initial bs = .ok (some name, rest)) :
    ∃ c mid, Comma initial c ∧ bs = c ++ 0x22 :: mid ∧ Reader.string mid = .ok (name, rest) := by
  rw [memberName?] at h
  obtain ⟨o, mid, hf, hb⟩ := bind_eq_ok.mp h
  obtain ⟨w, hw, rfl⟩ := first_cut hf
  cases o with
  | none => cases hb
  | some b =>
    obtain ⟨more, rfl⟩ := first_some _ _ _ hf
    dsimp only at hb
    split_ifs at hb with hclose hinitial hquote hcomma
    · cases hb
    · subst hinitial hquote
      exact ⟨w, more, .first hw, rfl, quoted_cut hb⟩
    · cases hb
    · subst hcomma
      obtain ⟨_, mid, hdrop, hc⟩ := bind_eq_ok.mp hb
      cases hdrop
      obtain ⟨o', mid', hf', hc'⟩ := bind_eq_ok.mp hc
      obtain ⟨w', hw', hmore⟩ := first_cut hf'
      cases o' with
      | none => cases hc'
      | some c =>
        obtain ⟨tail, rfl⟩ := first_some _ _ _ hf'
        dsimp only at hc'
        split_ifs at hc' with hquote
        · subst hquote
          obtain rfl : initial = false := by simpa using hinitial
          exact ⟨w ++ 0x2C :: w', tail, .later hw hw', by simp [← hmore], quoted_cut hc'⟩
        · cases hc'
        · cases hc'
    · cases hb

theorem colon_cut {bs rest : List UInt8} {u : Unit} (h : colon bs = .ok (u, rest)) :
    ∃ w, Blanks w ∧ bs = w ++ 0x3A :: rest := by
  rw [colon] at h
  obtain ⟨o, mid, hf, hb⟩ := bind_eq_ok.mp h
  obtain ⟨w, hw, rfl⟩ := first_cut hf
  cases o with
  | none => cases hb
  | some b =>
    obtain ⟨more, rfl⟩ := first_some _ _ _ hf
    dsimp only at hb
    split_ifs at hb with hc
    · subst hc
      cases hb
      exact ⟨w, hw, rfl⟩
    · cases hb

theorem scalar_cut {b : UInt8} {r : Reader Json} {more rest : List UInt8} {v : Json}
    (hr : scalar? b = some r) (h : r (b :: more) = .ok (v, rest)) (hs : Boundary rest) (n : Nat) :
    ∃ t, b :: more = t ++ rest ∧ Spells .value n t v := by
  have hword {ks : List UInt8} {w : Json}
      (h : (drop >>= fun _ => keyword ks >>= fun _ => pure w) (b :: more) = .ok (v, rest)) :
      v = w ∧ more = ks ++ rest := by
    rw [bind_ok _ (drop_cons b more)] at h
    obtain ⟨u, rfl, hk⟩ := map_ok.mp h
    exact ⟨rfl, keyword_cut hk⟩
  unfold scalar? at hr
  split_ifs at hr with h1 h2 h3 h4 h5 h6
  all_goals cases hr
  · obtain ⟨rfl, rfl⟩ := hword h
    exact ⟨_, by rw [h1]; rfl, .null⟩
  · obtain ⟨rfl, rfl⟩ := hword h
    exact ⟨_, by rw [h2]; rfl, .true⟩
  · obtain ⟨rfl, rfl⟩ := hword h
    exact ⟨_, by rw [h3]; rfl, .false⟩
  · rw [bind_ok _ (drop_cons b more)] at h
    obtain ⟨s, rfl, hstring⟩ := map_ok.mp h
    obtain ⟨t, u, rfl, ht, hu⟩ := string_iff.mp hstring
    exact ⟨_, by simp [h4], .string ht hu⟩
  · rw [bind_ok _ (drop_cons b more)] at h
    obtain ⟨x, rfl, hx⟩ := map_ok.mp h
    obtain ⟨t, rfl, ht, hx⟩ := (number_iff hs).mp hx
    exact ⟨_, by rw [h5]; rfl, .negative ht hx⟩
  · obtain ⟨x, rfl, hx⟩ := map_ok.mp h
    obtain ⟨t, ht, hn, hx⟩ := (number_iff hs).mp hx
    exact ⟨t, ht, .number hn hx⟩

def ValuesSpelled (depth : Nat) : Prop :=
  ∀ bs rest v, Boundary rest → value depth bs = .ok (v, rest) →
    ∃ w t, Blanks w ∧ bs = w ++ (t ++ rest) ∧ Spells .value depth t v

theorem items_cut {depth : Nat} (hv : ValuesSpelled depth) {initial : Bool} {bs rest : List UInt8}
    {vs : List Json} (h : Items (value depth) initial bs vs rest) :
    ∃ t, bs = t ++ rest ∧ Spells (.items initial) depth t vs := by
  induction h with
  | @close initial bs rest he =>
    obtain ⟨w, hw, rfl⟩ := first_cut (hasElement_false.mp he)
    exact ⟨w ++ [0x5D], by simp, .listEnd hw⟩
  | @next initial bs mid more rest a vs he ha _ ih =>
    obtain ⟨c, hc, rfl⟩ := hasElement_cut he
    obtain ⟨t, rfl, ht⟩ := ih
    obtain ⟨w, v, hw, rfl, hv⟩ := hv _ _ _ (items_boundary ht.phrase rest) ha
    exact ⟨c ++ w ++ (v ++ t), by simp, .item (comma_blanks hc hw) hv ht⟩

theorem pairs_cut {depth : Nat} (hv : ValuesSpelled depth) {initial : Bool} {bs rest : List UInt8}
    {ps : List (String × Json)} (h : Pairs (value depth) initial bs ps rest) :
    ∃ t, bs = t ++ rest ∧ Spells (.members initial) depth t ps := by
  induction h with
  | @close initial bs rest hn =>
    obtain ⟨w, hw, rfl⟩ := first_cut (memberName_none.mp hn)
    exact ⟨w ++ [0x7D], by simp, .objectEnd hw⟩
  | @next initial bs mid mid' more rest name a ps hn hcolon ha _ ih =>
    obtain ⟨c, tail, hc, rfl, hname⟩ := memberName_cut hn
    obtain ⟨k, u, rfl, hk, hu⟩ := string_iff.mp hname
    obtain ⟨w, hw, rfl⟩ := colon_cut hcolon
    obtain ⟨t, rfl, ht⟩ := ih
    obtain ⟨w', v, hw', rfl, hv⟩ := hv _ _ _ (members_boundary ht.phrase rest) ha
    exact ⟨_, by simp, .member hc hk hu hw hw' hv ht⟩

theorem values_spelled (depth : Nat) : ValuesSpelled depth := by
  induction depth with
  | zero =>
    intro bs rest v hs h
    obtain ⟨b, more, hb, ⟨-, _, _, hd, -⟩ | ⟨-, _, _, hd, -⟩ | ⟨r, hr, hscalar⟩⟩ := value_ok h
    · cases hd
    · cases hd
    · obtain ⟨w, hw, rfl⟩ := begin_cut hb
      obtain ⟨t, ht, hv⟩ := scalar_cut hr hscalar hs 0
      exact ⟨w, t, hw, by rw [ht], hv⟩
  | succ depth ih =>
    intro bs rest v hs h
    obtain ⟨b, more, hb, hcases⟩ := value_ok h
    obtain ⟨w, hw, rfl⟩ := begin_cut hb
    rcases hcases with ⟨rfl, _, vs, hd, rfl, hi⟩ | ⟨rfl, _, ps, hd, rfl, hp⟩ |
      ⟨r, hr, hscalar⟩
    · cases hd
      obtain ⟨t, rfl, ht⟩ := items_cut ih hi
      exact ⟨w, 0x5B :: t, hw, rfl, .list ht⟩
    · cases hd
      obtain ⟨t, rfl, ht⟩ := pairs_cut ih hp
      exact ⟨w, 0x7B :: t, hw, rfl, .object ht⟩
    · obtain ⟨t, ht, hv⟩ := scalar_cut hr hscalar hs (depth + 1)
      exact ⟨w, t, hw, by rw [ht], hv⟩

/-- Before a boundary a value is read exactly from the texts that stand for it, after blanks. -/
theorem value_iff {depth : Nat} {bs rest : List UInt8} {v : Json} (hs : Boundary rest) :
    value depth bs = .ok (v, rest) ↔
      ∃ w t, Blanks w ∧ bs = w ++ (t ++ rest) ∧ Spells .value depth t v := by
  constructor
  · exact values_spelled depth bs rest v hs
  · rintro ⟨w, t, hw, rfl, ht⟩
    rw [value_blank depth w _ hw]
    exact ht.found hs

theorem pairs_iff {depth : Nat} {initial : Bool} {bs rest : List UInt8}
    {ps : List (String × Json)} (hs : Boundary rest) :
    Pairs (value depth) initial bs ps rest ↔
      ∃ t, bs = t ++ rest ∧ Spells (.members initial) depth t ps := by
  constructor
  · exact pairs_cut (values_spelled depth)
  · rintro ⟨t, rfl, ht⟩
    exact ht.found hs

theorem blanks_boundary {w : List UInt8} (hw : Blanks w) : Boundary w := by
  have h := boundary_blanks hw boundary_nil
  rwa [List.append_nil] at h

end RestGateway.Json.Grammar

import Mathlib.Data.List.Nodup
import RestGateway.Proofs.Json.Records
import RestGateway.Proofs.Json.Results
import RestGateway.Proofs.Json.Skipping
import RestGateway.Proofs.Json.Texts

/-!
# Records of texts

A record whose members are texts is read from an object, where each of them stands at most once
under its name and other names are passed over, or from a list of the texts in their order. Which
texts these are is said by the grammar, one level deep.
-/

set_option autoImplicit false

namespace RestGateway.Json.Grammar
open Reader

variable {σ : Type}

structure TextField (σ : Type) where
  name : String
  get : σ → String
  set : String → σ → σ
  optional : Bool

def TextField.member (f : TextField σ) : Member σ :=
  ⟨f.name, f.set <$> Reader.text "a string", f.optional, f.optional⟩

theorem TextField.read_iff (f : TextField σ) {g : σ → σ} {bs rest : List UInt8} :
    f.member.read bs = .ok (g, rest) ↔
      ∃ w v x, bs = w ++ (v ++ rest) ∧ Blanks w ∧ Quoted v x ∧ g = f.set x := by
  change (f.set <$> Reader.text "a string") bs = _ ↔ _
  rw [map_eq_pure_bind, map_ok]
  constructor
  · rintro ⟨x, rfl, h⟩
    obtain ⟨w, v, rfl, hw, hx⟩ := (text_accepts _ _ _ _).mp h
    exact ⟨w, v, x, rfl, hw, hx, rfl⟩
  · rintro ⟨w, v, x, rfl, hw, hx, rfl⟩
    exact ⟨x, rfl, (text_accepts _ _ _ _).mpr ⟨w, v, rfl, hw, hx⟩⟩

/-- The fields have different names, are set without regard to each other, and make up a record. -/
structure Independent (fields : List (TextField σ)) : Prop where
  nodup : (fields.map TextField.name).Nodup
  get_set : ∀ f ∈ fields, ∀ x s, f.get (f.set x s) = x
  get_other : ∀ f ∈ fields, ∀ g ∈ fields, f.name ≠ g.name → ∀ x s, f.get (g.set x s) = f.get s
  ext : ∀ a b, (∀ f ∈ fields, f.get a = f.get b) → a = b

def under (name : String) (ps : List (String × List UInt8)) : List (List UInt8) :=
  (ps.filter fun p => p.1 == name).map Prod.snd

@[simp] theorem under_same (name : String) (v : List UInt8) (ps : List (String × List UInt8)) :
    under name ((name, v) :: ps) = v :: under name ps := by
  simp [under]

theorem under_other {name k : String} (h : k ≠ name) (v : List UInt8)
    (ps : List (String × List UInt8)) : under name ((k, v) :: ps) = under name ps := by
  simp [under, h]

/-- What a field of `out` is, by the texts that stand under its name from some place on: the one
text there, or as in `s` where there is none and none is needed. -/
inductive FieldFilled (f : TextField σ) (named : List String) (s out : σ) :
    List (List UInt8) → Prop where
  | kept : f.optional = true ∨ f.name ∈ named → f.get out = f.get s → FieldFilled f named s out []
  | given {v : List UInt8} :
      f.name ∉ named → Quoted v (f.get out) → FieldFilled f named s out [v]

/-- What the members of an object make of the record `s`, those in `named` being there already. -/
def Filled (fields : List (TextField σ)) (named : List String) (s : σ)
    (ps : List (String × List UInt8)) (out : σ) : Prop :=
  ∀ f ∈ fields, FieldFilled f named s out (under f.name ps)

section Filled

variable {f : TextField σ} {fields : List (TextField σ)} {named : List String} {s out : σ}
  {ps : List (String × List UInt8)}

theorem fieldFilled_cons {v : List UInt8} {vs : List (List UInt8)} :
    FieldFilled f named s out (v :: vs) ↔ f.name ∉ named ∧ Quoted v (f.get out) ∧ vs = [] := by
  constructor
  · rintro (_ | ⟨hn, hv⟩)
    exact ⟨hn, hv, rfl⟩
  · rintro ⟨hn, hv, rfl⟩
    exact .given hn hv

theorem fieldFilled_named {vs : List (List UInt8)} (hn : f.name ∈ named)
    (h : FieldFilled f named s out vs) : vs = [] ∧ f.get out = f.get s := by
  cases h with
  | kept _ hget => exact ⟨rfl, hget⟩
  | given hnot _ => exact absurd hn hnot

theorem FieldFilled.congr {named' : List String} {s' : σ} {vs : List (List UInt8)}
    (h : FieldFilled f named s out vs) (hn : f.name ∈ named ↔ f.name ∈ named')
    (hs : f.get s = f.get s') : FieldFilled f named' s' out vs := by
  cases h with
  | kept hneed hget => exact .kept (hneed.imp_right hn.mp) (hget.trans hs)
  | given hnot hv => exact .given (mt hn.mpr hnot) hv

theorem fieldFilled_required {vs : List (List UInt8)} (h : f.optional = false) :
    FieldFilled f [] s out vs ↔ ∃ v, vs = [v] ∧ Quoted v (f.get out) := by
  constructor
  · rintro (⟨ho | hn, -⟩ | ⟨-, hv⟩)
    · rw [h] at ho
      cases ho
    · cases hn
    · exact ⟨_, rfl, hv⟩
  · rintro ⟨v, rfl, hv⟩
    exact .given List.not_mem_nil hv

theorem fieldFilled_optional {vs : List (List UInt8)} (h : f.optional = true) :
    FieldFilled f [] s out vs ↔
      (vs = [] ∧ f.get out = f.get s) ∨ ∃ v, vs = [v] ∧ Quoted v (f.get out) := by
  constructor
  · rintro (⟨-, hget⟩ | ⟨-, hv⟩)
    · exact .inl ⟨rfl, hget⟩
    · exact .inr ⟨_, rfl, hv⟩
  · rintro (⟨rfl, hget⟩ | ⟨v, rfl, hv⟩)
    · exact .kept (.inl h) hget
    · exact .given List.not_mem_nil hv

theorem filled_nil (hf : Independent fields) : Filled fields named s [] out ↔
    (∀ f ∈ fields, f.optional = true ∨ f.name ∈ named) ∧ out = s := by
  constructor
  · intro h
    refine ⟨fun f hmem => ?_, hf.ext out s fun f hmem => ?_⟩
    all_goals
      cases h f hmem with
      | kept hneed hget => assumption
  · rintro ⟨hneed, rfl⟩ f hmem
    exact .kept (hneed f hmem) rfl

theorem filled_other {name : String} (hn : ∀ f ∈ fields, f.name ≠ name) (v : List UInt8) :
    Filled fields named s ((name, v) :: ps) out ↔ Filled fields named s ps out := by
  apply forall₂_congr
  intro f hmem
  rw [under_other (hn f hmem).symm]

theorem filled_twice (hmem : f ∈ fields) (hn : f.name ∈ named) (v : List UInt8) :
    ¬Filled fields named s ((f.name, v) :: ps) out := by
  intro h
  have hf := h f hmem
  rw [under_same, fieldFilled_cons] at hf
  exact hf.1 hn

theorem filled_given (hf : Independent fields) (hmem : f ∈ fields) (hn : f.name ∉ named)
    (v : List UInt8) :
    Filled fields named s ((f.name, v) :: ps) out ↔
      ∃ x, Quoted v x ∧ Filled fields (f.name :: named) (f.set x s) ps out := by
  have hsame {g : TextField σ} (hg : g ∈ fields) (he : g.name = f.name) : g = f :=
    List.inj_on_of_nodup_map hf.nodup hg hmem he
  have hother {g : TextField σ} (hg : g ∈ fields) (hne : g.name ≠ f.name) (x : String) :
      FieldFilled g named s out (under g.name ((f.name, v) :: ps)) ↔
        FieldFilled g (f.name :: named) (f.set x s) out (under g.name ps) := by
    have hnamed : g.name ∈ named ↔ g.name ∈ f.name :: named := by simp [hne]
    have hget := hf.get_other g hg f hmem hne x s
    rw [under_other hne.symm]
    exact ⟨fun h => h.congr hnamed hget.symm, fun h => h.congr hnamed.symm hget⟩
  constructor
  · intro h
    have hfirst := h f hmem
    rw [under_same, fieldFilled_cons] at hfirst
    obtain ⟨-, hv, hrest⟩ := hfirst
    refine ⟨f.get out, hv, fun g hg => ?_⟩
    by_cases he : g.name = f.name
    · obtain rfl := hsame hg he
      rw [hrest]
      exact .kept (.inr List.mem_cons_self) (hf.get_set g hg _ s).symm
    · exact (hother hg he _).mp (h g hg)
  · rintro ⟨x, hx, h⟩ g hg
    by_cases he : g.name = f.name
    · obtain rfl := hsame hg he
      rw [under_same, fieldFilled_cons]
      obtain ⟨hrest, hget⟩ := fieldFilled_named List.mem_cons_self (h g hg)
      rw [hf.get_set g hg] at hget
      exact ⟨hn, hget ▸ hx, hrest⟩
    · exact (hother hg he x).mpr (h g hg)

end Filled

inductive Round (fields : List (TextField σ)) (s : Filling σ) :
    List UInt8 → Filling σ ⊕ σ → Prop where
  | close {w : List UInt8} :
      Blanks w → (∀ f ∈ fields, f.optional = true ∨ f.name ∈ s.named) →
      Round fields s (w ++ [0x7D]) (.inr s.record)
  | passed {n : Nat} {l w v : List UInt8} {name : String} :
      Label s.initial l name → Blanks w → Phrase .value n v → (∀ f ∈ fields, f.name ≠ name) →
      Round fields s (l ++ (w ++ v)) (.inl { s with initial := false })
  | given {f : TextField σ} {l w v : List UInt8} {x : String} :
      f ∈ fields → Label s.initial l f.name → Blanks w → Quoted v x → f.name ∉ s.named →
      Round fields s (l ++ (w ++ v)) (.inl ⟨f.set x s.record, f.name :: s.named, false⟩)

theorem label_cut {initial : Bool} {bs mid rest : List UInt8} {name : String} {u : Unit}
    (hn : memberName? initial bs = .ok (some name, mid)) (hc : colon mid = .ok (u, rest)) :
    ∃ l, bs = l ++ rest ∧ Label initial l name := by
  obtain ⟨c, tail, hcomma, rfl, hs⟩ := memberName_cut hn
  obtain ⟨k, x, rfl, hk, hx⟩ := string_iff.mp hs
  obtain ⟨w, hw, rfl⟩ := colon_cut hc
  exact ⟨c ++ 0x22 :: (k ++ 0x22 :: (w ++ [0x3A])), by simp, .mk hcomma hk hx hw⟩

theorem label_read {initial : Bool} {l : List UInt8} {name : String} (h : Label initial l name)
    (bs : List UInt8) :
    ∃ mid, memberName? initial (l ++ bs) = .ok (some name, mid) ∧ colon mid = .ok ((), bs) := by
  obtain ⟨hc, hk, hu, hw⟩ := h
  next c k u w =>
    have hs : Reader.string (k ++ 0x22 :: (w ++ 0x3A :: bs)) = .ok (name, w ++ 0x3A :: bs) :=
      string_iff.mpr ⟨k, u, rfl, hk, hu⟩
    have hname : (Reader.string >>= fun s => (pure (some s) : Reader (Option String)))
        (k ++ 0x22 :: (w ++ 0x3A :: bs)) = .ok (some name, w ++ 0x3A :: bs) :=
      map_ok.mpr ⟨name, rfl, hs⟩
    refine ⟨w ++ 0x3A :: bs, ?_, colon_blank w bs hw⟩
    simp only [List.append_assoc, List.cons_append, List.nil_append]
    cases hc with
    | first hv => exact (memberName_first hv).trans hname
    | later hv hv' =>
      rw [List.append_assoc, List.cons_append]
      exact (memberName_later hv hv').trans hname

section Rounds

variable {fields : List (TextField σ)} {s : Filling σ}

theorem find_member {p : Member σ → Bool} {m : Member σ}
    (h : (fields.map TextField.member).find? p = some m) :
    ∃ f ∈ fields, m = f.member ∧ p m = true := by
  obtain ⟨f, hf, rfl⟩ := List.mem_map.mp (List.mem_of_find?_eq_some h)
  exact ⟨f, hf, rfl, List.find?_some h⟩

theorem memberStep_round {bs rest : List UInt8} {r : Filling σ ⊕ σ}
    (h : memberStep (fields.map TextField.member) s bs = .ok (r, rest)) :
    ∃ t, bs = t ++ rest ∧ Round fields s t r := by
  rw [memberStep] at h
  obtain ⟨o, mid, hn, ho⟩ := bind_eq_ok.mp h
  cases o with
  | none =>
    dsimp only at ho
    cases hf : (fields.map TextField.member).find? _ with
    | some m =>
      rw [hf] at ho
      exact (yields_failInObject (P := fun _ => False) _ _ _ _ ho).elim
    | none =>
      rw [hf] at ho
      obtain ⟨w, hw, rfl⟩ := first_cut (memberName_none.mp hn)
      obtain ⟨more, rfl⟩ := memberName_close hn
      cases ho
      refine ⟨w ++ [0x7D], by simp, .close hw fun f hmem => ?_⟩
      have hm := List.find?_eq_none.mp hf f.member (List.mem_map_of_mem hmem)
      simpa [TextField.member, or_iff_not_imp_left] using hm
  | some name =>
    dsimp only at ho
    cases hf : (fields.map TextField.member).find? _ with
    | none =>
      rw [hf] at ho
      obtain ⟨_, mid', hc, ho⟩ := bind_eq_ok.mp ho
      obtain ⟨_, mid'', hs, ho⟩ := bind_eq_ok.mp ho
      cases ho
      obtain ⟨l, rfl, hl⟩ := label_cut hn hc
      obtain ⟨n, w, v, rfl, hw, hv⟩ := skip_cut hs
      refine ⟨l ++ (w ++ v), by simp, .passed hl hw hv fun f hmem => ?_⟩
      have hm := List.find?_eq_none.mp hf f.member (List.mem_map_of_mem hmem)
      simpa [TextField.member] using hm
    | some m =>
      rw [hf] at ho
      obtain ⟨f, hmem, rfl, hname⟩ := find_member hf
      obtain rfl : f.name = name := beq_iff_eq.mp hname
      dsimp only at ho
      split_ifs at ho with hd
      · exact (yields_failInObject (P := fun _ => False) _ _ _ _ ho).elim
      · obtain ⟨_, mid', hc, ho⟩ := bind_eq_ok.mp ho
        obtain ⟨g, mid'', hr, ho⟩ := bind_eq_ok.mp ho
        cases ho
        obtain ⟨l, rfl, hl⟩ := label_cut hn hc
        obtain ⟨w, v, x, rfl, hw, hx, rfl⟩ := f.read_iff.mp hr
        exact ⟨l ++ (w ++ v), by simp, .given hmem hl hw hx (by simpa using hd)⟩

theorem round_ne_nil {t : List UInt8} {r : Filling σ ⊕ σ} (h : Round fields s t r) : t ≠ [] := by
  cases h with
  | close _ _ => simp
  | passed hl _ _ _ =>
    cases hl
    simp
  | given _ hl _ _ _ =>
    cases hl
    simp

theorem memberStep_advances : Advances (memberStep (fields.map TextField.member)) := by
  apply advances_of_cut
  intro s bs next rest h
  obtain ⟨t, hbs, ht⟩ := memberStep_round h
  exact ⟨t, hbs, round_ne_nil ht⟩

theorem round_close {w : List UInt8} (hw : Blanks w)
    (hneed : ∀ f ∈ fields, f.optional = true ∨ f.name ∈ s.named) (rest : List UInt8) :
    memberStep (fields.map TextField.member) s (w ++ 0x7D :: rest) = .ok (.inr s.record, rest) := by
  have hn : memberName? s.initial (w ++ 0x7D :: rest) = .ok (none, 0x7D :: rest) :=
    memberName_none.mpr ((first_blank w _ hw).trans (first_cons 0x7D rest (by decide)))
  apply memberStep_done hn
  intro m hm
  obtain ⟨f, hmem, rfl⟩ := List.mem_map.mp hm
  exact hneed f hmem

theorem round_passed {n : Nat} {l w v rest : List UInt8} {name : String}
    (hl : Label s.initial l name) (hw : Blanks w) (hv : Phrase .value n v) (hnone : ∀ f ∈ fields, f.name ≠ name)
    (hb : Boundary rest) :
    memberStep (fields.map TextField.member) s (l ++ (w ++ (v ++ rest))) =
      .ok (.inl { s with initial := false }, rest) := by
  obtain ⟨mid, hn, hc⟩ := label_read hl (w ++ (v ++ rest))
  have hs := (skip_iff hb).mpr ⟨n, w, v, rfl, hw, hv⟩
  have hf : (fields.map TextField.member).find? (fun m => m.name == name) = none := by
    rw [List.find?_eq_none]
    intro m hm
    obtain ⟨f, hmem, rfl⟩ := List.mem_map.mp hm
    simpa [TextField.member] using hnone f hmem
  rw [memberStep, bind_ok _ hn]
  dsimp only
  rw [hf]
  dsimp only
  rw [bind_ok _ hc, bind_ok _ hs]
  rfl

theorem round_given (hf : Independent fields) {f : TextField σ} {l w v : List UInt8} {x : String}
    (hmem : f ∈ fields) (hl : Label s.initial l f.name) (hw : Blanks w) (hx : Quoted v x)
    (hd : f.name ∉ s.named) (rest : List UInt8) :
    memberStep (fields.map TextField.member) s (l ++ (w ++ (v ++ rest))) =
      .ok (.inl ⟨f.set x s.record, f.name :: s.named, false⟩, rest) := by
  obtain ⟨mid, hn, hc⟩ := label_read hl (w ++ (v ++ rest))
  have hnodup : ((fields.map TextField.member).map Member.name).Nodup := by
    rw [List.map_map]
    exact hf.nodup
  exact memberStep_given (m := f.member) hn hc
    (find_name hnodup (List.mem_map_of_mem hmem)) (by simpa [TextField.member] using hd)
    (f.read_iff.mpr ⟨w, v, x, rfl, hw, hx, rfl⟩)

theorem loop_entries (hf : Independent fields) {g bs rest : List UInt8} {out : σ}
    (h : loop (memberStep (fields.map TextField.member)) g s bs = .ok (out, rest)) :
    ∃ t ps, bs = t ++ rest ∧ Entries s.initial t ps ∧ Filled fields s.named s.record ps out := by
  apply loop_induct (P := fun s bs out rest => ∃ t ps, bs = t ++ rest ∧ Entries s.initial t ps ∧
    Filled fields s.named s.record ps out) ?_ h
  intro s bs r left out rest hs hafter
  obtain ⟨t, rfl, hround⟩ := memberStep_round hs
  cases hround with
  | close hw hneed =>
    obtain ⟨rfl, rfl⟩ := hafter
    exact ⟨_, [], rfl, .close hw, (filled_nil hf).mpr ⟨hneed, rfl⟩⟩
  | passed hl hw hv hnone =>
    obtain ⟨t, ps, rfl, ht, hps⟩ := hafter
    exact ⟨_, _, by simp, .next hl hw hv ht, (filled_other hnone _).mpr hps⟩
  | given hmem hl hw hx hd =>
    obtain ⟨t, ps, rfl, ht, hps⟩ := hafter
    exact ⟨_, _, by simp, .next hl hw hx.phrase ht, (filled_given hf hmem hd _).mpr ⟨_, hx, hps⟩⟩

end Rounds

theorem entries_repeatedly {fields : List (TextField σ)} (hf : Independent fields) {initial : Bool}
    {named : List String} {t rest : List UInt8} {ps : List (String × List UInt8)} {s out : σ}
    (ht : Entries initial t ps) (h : Filled fields named s ps out) :
    repeatedly (memberStep (fields.map TextField.member)) ⟨s, named, initial⟩ (t ++ rest) =
      .ok (out, rest) := by
  induction ht generalizing named s with
  | close hw =>
    obtain ⟨hneed, rfl⟩ := (filled_nil hf).mp h
    rw [List.append_assoc]
    exact repeatedly_done (round_close hw hneed rest)
  | @next initial n l w v t name ps hl hw hv ht ih =>
    simp only [List.append_assoc]
    by_cases hname : ∃ f ∈ fields, f.name = name
    · obtain ⟨f, hmem, rfl⟩ := hname
      have hd : f.name ∉ named := fun hn => filled_twice hmem hn v h
      obtain ⟨x, hx, hps⟩ := (filled_given hf hmem hd v).mp h
      have hround := round_given (s := ⟨s, named, initial⟩) hf hmem hl hw hx hd (t ++ rest)
      rw [repeatedly_go memberStep_advances hround, ih hps]
    · have hnone : ∀ f ∈ fields, f.name ≠ name := fun f hmem he => hname ⟨f, hmem, he⟩
      obtain ⟨m, hm⟩ := ht.phrase
      have hround := round_passed (s := ⟨s, named, initial⟩) hl hw hv hnone
        (members_boundary hm rest)
      rw [repeatedly_go memberStep_advances hround, ih ((filled_other hnone v).mp h)]

inductive Placed : List (TextField σ) → σ → List (List UInt8) → σ → Prop where
  | done {s : σ} : Placed [] s [] s
  | given {f : TextField σ} {fields : List (TextField σ)} {s out : σ} {v : List UInt8} {x : String}
      {vs : List (List UInt8)} :
      Quoted v x → Placed fields (f.set x s) vs out → Placed (f :: fields) s (v :: vs) out
  | missing {f : TextField σ} {fields : List (TextField σ)} {s out : σ} :
      f.optional = true → Placed fields s [] out → Placed (f :: fields) s [] out

theorem elements_end {initial : Bool} {t rest more : List UInt8} {vs : List (List UInt8)}
    (ht : Elements initial t vs) (h : hasElement initial (t ++ rest) = .ok (false, more)) :
    vs = [] := by
  cases ht with
  | close _ => rfl
  | next hc hv _ =>
    rw [List.append_assoc, List.append_assoc, hasElement_value hc hv] at h
    cases h

theorem elements_placed {tooShort : Nat → Cause} {fields : List (TextField σ)} {place : Nat}
    {initial : Bool} {s out : σ} {bs rest : List UInt8} :
    elements tooShort (fields.map TextField.member) place initial s bs = .ok (out, rest) ↔
      ∃ t vs, bs = t ++ rest ∧ Elements initial t vs ∧ Placed fields s vs out := by
  induction fields generalizing place initial s bs with
  | nil =>
    rw [List.map_nil, elements_nil, hasElement_end]
    constructor
    · rintro ⟨rfl, w, rfl, hw⟩
      exact ⟨w ++ [0x5D], [], by simp, .close hw, .done⟩
    · rintro ⟨t, vs, rfl, ht, hvs⟩
      cases hvs
      cases ht with
      | close hw => exact ⟨rfl, _, by simp, hw⟩
  | cons f fields ih =>
    rw [List.map_cons, elements, bind_eq_ok]
    constructor
    · rintro ⟨e, mid, he, h⟩
      cases e with
      | true =>
        obtain ⟨g, more, hg, h⟩ := bind_eq_ok.mp h
        obtain ⟨c, hc, rfl⟩ := hasElement_cut he
        obtain ⟨w, v, x, rfl, hw, hx, rfl⟩ := f.read_iff.mp hg
        obtain ⟨t, vs, rfl, ht, hvs⟩ := ih.mp h
        exact ⟨c ++ w ++ (v ++ t), v :: vs, by simp, .next (comma_blanks hc hw) hx.phrase ht,
          .given hx hvs⟩
      | false =>
        obtain ⟨more, rfl⟩ := hasElement_close he
        obtain ⟨w, rfl, hw⟩ := hasElement_end.mp he
        rw [if_neg Bool.false_ne_true] at h
        split_ifs at h with ho
        · obtain ⟨t, vs, ht', ht, hvs⟩ := ih.mp h
          have hclosed : hasElement initial (t ++ rest) = .ok (false, 0x5D :: more) := by
            rw [← ht']
            exact hasElement_end.mpr ⟨[], rfl, blank_nil⟩
          obtain rfl := elements_end ht hclosed
          refine ⟨w ++ t, [], by rw [ht', List.append_assoc], ?_, .missing ho hvs⟩
          cases ht with
          | close hw' =>
            rw [← List.append_assoc]
            exact .close (List.forall_mem_append.mpr ⟨hw, hw'⟩)
        · cases h
    · rintro ⟨t, vs, rfl, ht, hvs⟩
      cases hvs with
      | @given _ _ _ _ v x vs hx hvs =>
        cases ht with
        | @next _ n c _ t _ hc hv ht =>
          rw [List.append_assoc, List.append_assoc]
          have hg : f.member.read (v ++ (t ++ rest)) = .ok (f.set x, t ++ rest) :=
            f.read_iff.mpr ⟨[], v, x, rfl, blank_nil, hx, rfl⟩
          refine ⟨true, _, hasElement_value hc hv _, ?_⟩
          rw [if_pos rfl, bind_ok _ hg]
          exact ih.mpr ⟨t, vs, rfl, ht, hvs⟩
      | missing ho hvs =>
        cases ht with
        | @close _ w hw =>
          have he : hasElement initial (w ++ [0x5D] ++ rest) = .ok (false, 0x5D :: rest) :=
            hasElement_end.mpr ⟨w, by simp, hw⟩
          have hd : f.member.defaulted = true := ho
          refine ⟨false, _, he, ?_⟩
          rw [if_neg Bool.false_ne_true, if_pos hd]
          exact ih.mpr ⟨[0x5D], [], rfl, .close blank_nil, hvs⟩

/-- A record's text: an object of its fields, or a list of them. -/
inductive RecordText (fields : List (TextField σ)) (start : σ) : List UInt8 → σ → Prop where
  | object {t : List UInt8} {ps : List (String × List UInt8)} {out : σ} :
      Entries true t ps → Filled fields [] start ps out → RecordText fields start (0x7B :: t) out
  | list {t : List UInt8} {vs : List (List UInt8)} {out : σ} :
      Elements true t vs → Placed fields start vs out → RecordText fields start (0x5B :: t) out

theorem RecordText.phrase {fields : List (TextField σ)} {start out : σ} {v : List UInt8}
    (h : RecordText fields start v out) : ∃ n, Phrase .value n v := by
  cases h with
  | object ht _ =>
    obtain ⟨n, hn⟩ := ht.phrase
    exact ⟨n + 1, .object hn⟩
  | list ht _ =>
    obtain ⟨n, hn⟩ := ht.phrase
    exact ⟨n + 1, .list hn⟩

theorem record_accepts {fields : List (TextField σ)} (hf : Independent fields) (name : String)
    (start : σ) :
    Accepts (record name start (some (fields.map TextField.member))) (RecordText fields start) := by
  intro bs out rest
  rw [record, bind_eq_ok]
  constructor
  · rintro ⟨b, mid, hb, h⟩
    obtain ⟨w, hw, rfl⟩ := begin_cut hb
    obtain ⟨more, rfl⟩ := first_some _ _ _ (first_begin hb)
    dsimp only at h
    split_ifs at h with ho hl
    · subst ho
      obtain ⟨t, ps, rfl, ht, hps⟩ := loop_entries hf h
      exact ⟨w, 0x7B :: t, rfl, hw, .object ht hps⟩
    · subst hl
      obtain ⟨t, vs, rfl, ht, hvs⟩ := elements_placed.mp h
      exact ⟨w, 0x5B :: t, rfl, hw, .list ht hvs⟩
    · exact absurd h (wrongType_ne_ok _ _ _)
  · rintro ⟨w, v, rfl, hw, hv⟩
    cases hv with
    | object ht hps => exact ⟨0x7B, _, begin_blanks hw (by decide) _, entries_repeatedly hf ht hps⟩
    | list ht hvs =>
      exact ⟨0x5B, _, begin_blanks hw (by decide) _, elements_placed.mpr ⟨_, _, rfl, ht, hvs⟩⟩

/-- A list of records is decoded exactly from the texts of such a list. -/
theorem decode_records {fields : List (TextField σ)} (hf : Independent fields) (name : String)
    (start : σ) (input : List UInt8) (as : List σ) :
    (Decoder.list (Decoder.record name start fun _ => fields.map TextField.member)).decode input =
        .ok as ↔ WholeList (RecordText fields start) input as := by
  have hlist := listWith_accepts (record_accepts hf name start) fun _ _ h => h.phrase
  rw [decode_ok]
  constructor
  · rintro ⟨w', h, hw'⟩
    obtain ⟨w, v, rfl, hw, hv⟩ := (hlist input as w').mp h
    exact .mk hw hv hw'
  · rintro ⟨hw, hv, hw'⟩
    exact ⟨_, (hlist _ as _).mpr ⟨_, _, rfl, hw, hv⟩, hw'⟩

end RestGateway.Json.Grammar

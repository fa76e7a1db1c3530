import RestGateway.Proofs.Json.Contents
import RestGateway.Proofs.Json.Mirror

/-!
# What readers give

What holds of everything that a reader gives, whatever the input. Values that were read have integers
of 64 bits and objects with their members in order. A record that was read, from an object or from a
list, satisfies what its start satisfies and every member keeps.
-/

set_option autoImplicit false

namespace RestGateway.Json.Reader

variable {α β σ : Type}

/-- Everything that `r` gives satisfies `P`. -/
def Yields (r : Reader α) (P : α → Prop) : Prop :=
  ∀ bs a rest, r bs = .ok (a, rest) → P a

theorem yields_pure {P : α → Prop} {a : α} (h : P a) : Yields (pure a) P := by
  intro bs b rest hb
  cases hb
  exact h

theorem yields_any (r : Reader α) : Yields r fun _ => True := fun _ _ _ _ => trivial

theorem yields_bind {x : Reader α} {f : α → Reader β} {P : α → Prop} {Q : β → Prop}
    (hx : Yields x P) (hf : ∀ a, P a → Yields (f a) Q) : Yields (x >>= f) Q := by
  intro bs b rest h
  obtain ⟨a, mid, ha, h⟩ := bind_eq_ok.mp h
  exact hf a (hx bs a mid ha) mid b rest h

theorem yields_then {x : Reader α} {f : α → Reader β} {Q : β → Prop} (hf : ∀ a, Yields (f a) Q) :
    Yields (x >>= f) Q :=
  yields_bind (yields_any x) fun a _ => hf a

theorem yields_map {r : Reader α} {P : α → Prop} {Q : β → Prop} {f : α → β} (h : Yields r P)
    (hf : ∀ a, P a → Q (f a)) : Yields (f <$> r) Q := by
  rw [map_eq_pure_bind]
  exact yields_bind h fun a ha => yields_pure (hf a ha)

theorem yields_fail {P : α → Prop} (c : Cause) : Yields (fail c) P := by
  intro bs a rest h
  cases h

theorem yields_failAhead {P : α → Prop} (c : Cause) : Yields (failAhead c) P := by
  intro bs a rest h
  cases h

theorem yields_wrongType {P : α → Prop} (wanted : String) : Yields (wrongType wanted) P :=
  fun _ _ _ h => absurd h (wrongType_ne_ok _ _ _)

theorem Mirrors.yields {r : Reader α} {u : Reader Json} {form : α → Json} {P : Json → Prop}
    (hm : Mirrors r u form) (h : Yields u P) : Yields r fun a => P (form a) :=
  fun bs a rest ha => h bs (form a) rest ((hm bs a rest).mp ha)

theorem gather_lt (ds : List UInt8) (significand taken : Nat) (h : significand < UInt64.size) :
    (gather significand taken ds).1 < UInt64.size := by
  induction ds generalizing significand taken with
  | nil => exact h
  | cons d ds ih =>
    rw [gather]
    split_ifs with hn
    · exact ih _ _ hn
    · exact h

theorem integer_fits (negative : Bool) {n : Nat} (h : n < UInt64.size) :
    (integer negative n).fits = true := by
  have hl : Word.least ≤ 0 := by decide
  unfold integer
  split_ifs with hneg hz
  · rfl
  · rw [Number.fits_int]
    omega
  · rw [Number.fits_int]
    omega

theorem yields_float (negative : Bool) (significand : Nat) (e : Int) :
    Yields (float negative significand e) fun n => n.fits = true := by
  unfold float
  split
  · exact yields_pure rfl
  · exact yields_fail _

theorem yields_exponentDigits (negative : Bool) (significand : Nat) (start : Int) (down : Bool)
    (n : Nat) : Yields (exponentDigits negative significand start down n) fun n => n.fits = true := by
  intro bs x rest h
  induction bs generalizing n with
  | nil => exact yields_float _ _ _ _ _ _ h
  | cons b bs ih =>
    simp only [exponentDigits] at h
    split_ifs at h
    · exact ih _ h
    · cases h
      rfl
    · exact yields_float _ _ _ _ _ _ h
    · exact yields_float _ _ _ _ _ _ h

theorem yields_exponent (negative : Bool) (significand : Nat) (start : Int) :
    Yields (exponent negative significand start) fun n => n.fits = true := by
  intro bs x rest h
  simp only [exponent] at h
  split at h
  · cases h
  · split_ifs at h
    exact yields_exponentDigits _ _ _ _ _ _ _ _ h

theorem yields_fraction (negative : Bool) (significand dropped : Nat) :
    Yields (fraction negative significand dropped) fun n => n.fits = true := by
  intro bs x rest h
  simp only [fraction] at h
  split_ifs at h
  split at h
  · split_ifs at h
    · exact yields_exponent _ _ _ _ _ _ h
    · exact yields_float _ _ _ _ _ _ h
  · exact yields_float _ _ _ _ _ _ h

theorem yields_afterInteger (negative : Bool) {significand : Nat} (dropped : Nat)
    (hs : significand < UInt64.size) :
    Yields (afterInteger negative significand dropped) fun n => n.fits = true := by
  intro bs x rest h
  simp only [afterInteger] at h
  split at h
  · split_ifs at h
    · cases h
      exact integer_fits negative hs
    · exact yields_float _ _ _ _ _ _ h
  · split_ifs at h
    · exact yields_fraction _ _ _ _ _ _ h
    · exact yields_exponent _ _ _ _ _ _ h
    · cases h
      exact integer_fits negative hs
    · exact yields_float _ _ _ _ _ _ h

theorem yields_number (negative : Bool) : Yields (number negative) fun n => n.fits = true := by
  have hz : 0 < UInt64.size := by decide
  intro bs x rest h
  simp only [number] at h
  split at h
  · cases h
  · split_ifs at h
    · split at h
      · split_ifs at h
        exact yields_afterInteger _ _ hz _ _ _ h
      · exact yields_afterInteger _ _ hz _ _ _ h
    · exact yields_afterInteger _ _ (gather_lt _ 0 0 hz) _ _ _ h

theorem items_all {item : Reader α} {P : α → Prop} {initial : Bool} {bs rest : List UInt8}
    {as : List α} (hp : Yields item P) (h : Items item initial bs as rest) : ∀ a ∈ as, P a := by
  induction h with
  | close _ => exact List.forall_mem_nil _
  | next _ ha _ ih => exact List.forall_mem_cons.mpr ⟨hp _ _ _ ha, ih⟩

theorem pairs_all {item : Reader α} {P : α → Prop} {initial : Bool} {bs rest : List UInt8}
    {ps : List (String × α)} (hp : Yields item P) (h : Pairs item initial bs ps rest) :
    ∀ p ∈ ps, P p.2 := by
  induction h with
  | close _ => exact List.forall_mem_nil _
  | next _ _ ha _ ih => exact List.forall_mem_cons.mpr ⟨hp _ _ _ ha, ih⟩

theorem scalar_proper {b : UInt8} {r : Reader Json} {more rest : List UInt8} {v : Json}
    (hr : scalar? b = some r) (h : r (b :: more) = .ok (v, rest)) : v.isProper = true := by
  cases v with
  | null => rfl
  | bool b => rfl
  | string s => rfl
  | number n =>
    rcases scalar_number hr h with ⟨-, hn⟩ | ⟨-, hn⟩
    · exact yields_number true _ _ _ hn
    · exact yields_number false _ _ _ hn
  | list items => exact absurd rfl ((scalar_ok hr h).1 items)
  | object members => exact absurd rfl ((scalar_ok hr h).2.1 members)

theorem yields_value (depth : Nat) : Yields (value depth) fun v => v.isProper = true := by
  induction depth with
  | zero =>
    intro bs v rest h
    obtain ⟨b, more, -, ⟨-, _, _, hd, -⟩ | ⟨-, _, _, hd, -⟩ | ⟨r, hr, h⟩⟩ := value_ok h
    · cases hd
    · cases hd
    · exact scalar_proper hr h
  | succ depth ih =>
    intro bs v rest h
    obtain ⟨b, more, -, ⟨-, inner, items, hd, rfl, hi⟩ | ⟨-, inner, ps, hd, rfl, hp⟩ | ⟨r, hr, h⟩⟩ :=
      value_ok h
    · cases hd
      exact (every_list _ _ items).mpr (items_all ih hi)
    · cases hd
      exact object_proper ps (pairs_all ih hp)
    · exact scalar_proper hr h

theorem yields_members (depth : Nat) :
    Yields (Decoder.members depth) fun ms => (Json.object ms).isProper = true :=
  (mirrors_members depth).yields (yields_value depth)

theorem yields_integerIn (low high : Int) (wanted : String) :
    Yields (integerIn low high wanted) fun n => low ≤ n ∧ n ≤ high :=
  fun _ _ _ h => ((integerIn_ok 0).mp h).2

theorem yields_option {r : Reader α} {P : α → Prop} (h : Yields r P) :
    Yields (option r) fun o => ∀ a ∈ o, P a := by
  have hs : Yields (r >>= fun a => pure (some a)) fun o => ∀ a ∈ o, P a := by
    refine yields_bind h fun a ha => yields_pure ?_
    rintro b ⟨⟩
    exact ha
  apply yields_then
  intro o
  cases o with
  | none => exact hs
  | some b =>
    dsimp only
    split_ifs
    · apply yields_then
      intro u
      apply yields_then
      intro u
      apply yields_pure
      rintro b ⟨⟩
    · exact hs

theorem yields_listWith {inner : Option (Reader α)} {P : α → Prop}
    (h : ∀ r ∈ inner, Yields r P) : Yields (listWith inner) fun as => ∀ a ∈ as, P a := by
  apply yields_then
  intro b
  split_ifs
  · cases inner with
    | none => exact yields_failAhead _
    | some r =>
      apply yields_then
      intro u bs as rest hl
      obtain ⟨as', rfl, hi⟩ := loop_items hl
      exact items_all (h r rfl) hi
  · exact yields_wrongType _

theorem yields_list {d : Decoder α} {P : α → Prop} (h : ∀ depth, Yields (d depth) P)
    (depth : Nat) : Yields (Decoder.list d depth) fun as => ∀ a ∈ as, P a := by
  apply yields_listWith
  cases depth with
  | zero => rintro r ⟨⟩
  | succ depth =>
    rintro r ⟨⟩
    exact h depth

theorem yields_loop {step : σ → Reader (σ ⊕ β)} {I : σ → Prop} {Q : β → Prop}
    (h : ∀ s, I s → Yields (step s) (Sum.elim I Q)) (g : List UInt8) {s : σ} (hs : I s) :
    Yields (loop step g s) Q := by
  intro bs b rest hok
  apply loop_induct (P := fun s _ b _ => I s → Q b) ?_ hok hs
  intro s bs r left b rest hr hafter hs
  have hi := h s hs bs r left hr
  cases r with
  | inl next => exact hafter hi
  | inr result =>
    obtain ⟨rfl, -⟩ := hafter
    exact hi

theorem yields_failInObject {P : α → Prop} (c : Cause) : Yields (failInObject c) P := by
  apply yields_then
  intro o
  cases o with
  | none => exact yields_fail c
  | some b =>
    dsimp only
    split_ifs
    · exact yields_then fun _ => yields_fail c
    · exact yields_fail c

section Records

variable {I : σ → Prop} {fields : List (Member σ)}

def Keeps (fields : List (Member σ)) (I : σ → Prop) : Prop :=
  ∀ m ∈ fields, Yields m.read fun set => ∀ s, I s → I (set s)

theorem keeps_nil : Keeps [] I := List.forall_mem_nil _

theorem keeps_cons {name : String} {optional defaulted : Bool} {set : α → σ → σ} {r : Reader α}
    {P : α → Prop} (h : Yields r P) (hs : ∀ a s, P a → I s → I (set a s)) (hm : Keeps fields I) :
    Keeps (⟨name, set <$> r, optional, defaulted⟩ :: fields) I :=
  List.forall_mem_cons.mpr ⟨yields_map h fun a ha s => hs a s ha, hm⟩

theorem yields_memberStep (hm : Keeps fields I) {s : Filling σ} (hs : I s.record) :
    Yields (memberStep fields s) (Sum.elim (fun next => I next.record) I) := by
  apply yields_then
  intro o
  cases o with
  | none =>
    dsimp only
    split
    · exact yields_failInObject _
    · exact yields_then fun _ => yields_pure hs
  | some name =>
    dsimp only
    split
    · exact yields_then fun _ => yields_then fun _ => yields_pure hs
    · next m hf =>
      split_ifs
      · exact yields_failInObject _
      · refine yields_then fun _ => yields_bind (hm m (List.mem_of_find?_eq_some hf)) ?_
        intro set hset
        exact yields_pure (hset _ hs)

theorem yields_elements (hm : Keeps fields I) (tooShort : Nat → Cause) (place : Nat)
    (initial : Bool) {s : σ} (hs : I s) : Yields (elements tooShort fields place initial s) I := by
  induction fields generalizing place initial s with
  | nil => exact yields_then fun _ => yields_pure hs
  | cons m fields ih =>
    obtain ⟨h, hm⟩ := List.forall_mem_cons.mp hm
    apply yields_then
    intro more
    split_ifs
    · exact yields_bind h fun set hset => ih hm _ _ (hset s hs)
    · exact ih hm _ _ hs
    · exact yields_then fun _ => yields_fail _

theorem yields_record {name : String} {start : σ} {inner : Option (List (Member σ))}
    (hs : I start) (hm : ∀ fields ∈ inner, Keeps fields I) : Yields (record name start inner) I := by
  apply yields_then
  intro b
  split_ifs
  · cases inner with
    | none => exact yields_failAhead _
    | some fields =>
      apply yields_then
      intro u bs out rest h
      exact yields_loop (I := fun f : Filling σ => I f.record)
        (fun f hf => yields_memberStep (hm fields rfl) hf) _ hs _ _ _ h
  · cases inner with
    | none => exact yields_failAhead _
    | some fields => exact yields_then fun _ => yields_elements (hm fields rfl) _ _ _ hs
  · exact yields_wrongType _

theorem yields_decoder {name : String} {start : σ} {members : Nat → List (Member σ)}
    (hs : I start) (hm : ∀ depth, Keeps (members depth) I) (depth : Nat) :
    Yields (Decoder.record name start members depth) I := by
  cases depth with
  | zero =>
    show Yields (record name start none) I
    apply yields_record hs
    rintro fields ⟨⟩
  | succ depth =>
    show Yields (record name start (some (members depth))) I
    apply yields_record hs
    rintro fields ⟨⟩
    exact hm depth

end Records

end RestGateway.Json.Reader

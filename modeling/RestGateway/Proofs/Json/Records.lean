import RestGateway.Proofs.Json.RoundTrip

/-!
# Records are read as they are written

A record is written as an object of its members in their order, where those that a record can do
without may be left out. Its reader gives back what the members' own readers give. So do the readers
of the types that occur in records, and of lists of records.
-/

set_option autoImplicit false

namespace RestGateway.Json.Reader

variable {α β σ : Type}

theorem Mirrors.reads {r : Reader α} {u : Reader Json} {form : α → Json} {a : α}
    (hm : Mirrors r u form) (h : Reads u (form a) (form a)) : Reads r (form a) a := by
  intro s hs
  exact (hm _ _ _).mpr (h s hs)

theorem reads_map {r : Reader α} {v : Json} {a : α} (f : α → β) (h : Reads r v a) :
    Reads (f <$> r) v (f a) := by
  intro s hs
  rw [map_eq_pure_bind, bind_ok _ (h s hs)]
  rfl

theorem reads_text (wanted x : String) : Reads (text wanted) (.string x) x :=
  (mirrors_text wanted 0).reads fun s _ => value_string 0 x s

theorem reads_integerIn {low high n : Int} (wanted : String) (hw : (Number.int n).fits = true)
    (hl : low ≤ n) (hh : n ≤ high) : Reads (integerIn low high wanted) (.number (.int n)) n := by
  intro s hs
  obtain ⟨hleast, hsize⟩ := (Number.fits_int n).mp hw
  exact (integerIn_ok 0).mpr ⟨value_int 0 n s hleast hsize hs, hl, hh⟩

theorem reads_word {n : Int} (depth : Nat) (hl : Word.least ≤ n) (hg : n ≤ Word.greatest) :
    Reads (Decoder.word depth) (.number (.int n)) n := by
  have hs : Word.greatest < (UInt64.size : Int) := by decide
  exact reads_integerIn "i64" ((Number.fits_int n).mpr (by omega)) hl hg

theorem reads_natural {bound n : Nat} (name : String) (depth : Nat) (h : n < bound)
    (hb : bound ≤ UInt64.size) :
    Reads (Decoder.natural bound name depth) (.number (.int n)) n := by
  have hl : Word.least ≤ 0 := by decide
  have hf : (Number.int n).fits = true := by
    rw [Number.fits_int]
    omega
  exact reads_map Int.toNat (reads_integerIn name hf (by omega) (by omega))

theorem reads_members {ms : Members} {depth : Nat} (hp : (Json.object ms).isProper = true)
    (hf : (Json.object ms).isFloatFree = true) (hn : (Json.object ms).nesting ≤ depth) :
    Reads (Decoder.members depth) (.object ms) ms :=
  (mirrors_members depth).reads (reads_value hp hf hn)

theorem reads_choice {names : List (String × α)} {name : String} {a : α} (wanted : String)
    (inner : Bool) (h : names.lookup name = some a) :
    Reads (choice names wanted inner) (.string name) a := by
  intro s _
  have hq : Utf8.encode (chars (.string name)) ++ s = _ := encode_quote name s
  rw [hq, choice, bind_ok _ (first_cons 0x22 _ (by decide))]
  dsimp only
  rw [if_neg (by decide), if_pos rfl, bind_ok _ (drop_cons _ _), bind_ok _ (string_written name s),
    choice.named, h]
  rfl

def Starts (v : Json) : Prop :=
  ∃ b more, Utf8.encode v.chars = b :: more ∧ isBlank b = false ∧ b ≠ 0x5D ∧ b ≠ 0x6E

theorem starts_string (s : String) : Starts (.string s) :=
  ⟨0x22, _, rfl, by decide, by decide, by decide⟩

theorem starts_object (ms : List (String × Json)) : Starts (.object ms) :=
  ⟨0x7B, _, rfl, by decide, by decide, by decide⟩

theorem reads_some {r : Reader α} {v : Json} {a : α} (hv : Starts v) (h : Reads r v a) :
    Reads (option r) v (some a) := by
  intro s hs
  obtain ⟨b, more, he, hb, -, hn⟩ := hv
  have hr := h s hs
  rw [he, List.cons_append] at hr ⊢
  rw [option, bind_ok _ (first_cons b _ hb)]
  dsimp only
  rw [if_neg hn, bind_ok _ hr]
  rfl

/-- Rounds from a state to a result, each of which takes a byte. -/
inductive Rounds (step : σ → Reader (σ ⊕ β)) : σ → List UInt8 → β → List UInt8 → Prop where
  | done {s : σ} {b : β} {bs rest : List UInt8} :
      step s bs = .ok (.inr b, rest) → Rounds step s bs b rest
  | go {s next : σ} {b : β} {bs mid rest : List UInt8} :
      step s bs = .ok (.inl next, mid) → mid.length < bs.length →
      Rounds step next mid b rest → Rounds step s bs b rest

theorem loop_rounds {step : σ → Reader (σ ⊕ β)} {s : σ} {b : β} {g bs rest : List UInt8}
    (h : Rounds step s bs b rest) (hg : bs.length < g.length) :
    loop step g s bs = .ok (b, rest) := by
  induction h generalizing g with
  | done hs =>
    cases g with
    | nil => cases hg
    | cons x g => simp only [loop, hs]
  | go hs hlt _ ih =>
    cases g with
    | nil => cases hg
    | cons x g =>
      simp only [loop, hs]
      apply ih
      simp only [List.length_cons] at hg
      omega

theorem repeatedly_rounds {step : σ → Reader (σ ⊕ β)} {s : σ} {b : β} {bs rest : List UInt8}
    (h : Rounds step s bs b rest) : repeatedly step s bs = .ok (b, rest) :=
  loop_rounds h (Nat.lt_succ_self _)

def itemsFrom (initial : Bool) (vs : List Json) : List Char :=
  if initial then charsOfItems vs else laterItems vs

theorem hasElement_written (initial : Bool) (v : Json) (vs : List Json) (s : List UInt8)
    (hv : Starts v) : hasElement initial (Utf8.encode (itemsFrom initial (v :: vs)) ++ s) =
      .ok (true, Utf8.encode v.chars ++ (Utf8.encode (laterItems vs) ++ s)) := by
  obtain ⟨b, more, he, hb, hc, -⟩ := hv
  have hf := first_cons b (more ++ (Utf8.encode (laterItems vs) ++ s)) hb
  cases initial with
  | true =>
    rw [itemsFrom, if_pos rfl, charsOfItems_cons, Utf8.encode_append, List.append_assoc, he]
    exact hasElement_first.mpr ⟨b, hf, hc⟩
  | false =>
    rw [itemsFrom, if_neg Bool.false_ne_true, encode_laterItems, he]
    exact (hasElement_later blank_nil).mpr ⟨b, hf, hc⟩

theorem hasElement_closed (initial : Bool) (s : List UInt8) :
    hasElement initial (Utf8.encode (itemsFrom initial []) ++ 0x5D :: s) =
      .ok (false, 0x5D :: s) := by
  cases initial <;> rfl

section Lists

variable {item : Reader α} {form : α → Json}

theorem rounds_items (as acc : List α) (s : List UInt8)
    (hr : ∀ a ∈ as, Reads item (form a) a) (hs : ∀ a ∈ as, Starts (form a)) :
    Rounds (listStep item) acc
      (Utf8.encode (itemsFrom acc.isEmpty (as.map form)) ++ 0x5D :: s) (acc.reverse ++ as) s := by
  induction as generalizing acc with
  | nil =>
    rw [List.append_nil]
    exact .done (listStep_close (hasElement_closed _ s))
  | cons a as ih =>
    obtain ⟨ha, hr⟩ := List.forall_mem_cons.mp hr
    obtain ⟨hstart, hs⟩ := List.forall_mem_cons.mp hs
    have he := hasElement_written acc.isEmpty (form a) (as.map form) (0x5D :: s) hstart
    have hstep := listStep_next he (ha _ (boundary_items (as.map form) s))
    have hrest := ih (a :: acc) hr hs
    rw [List.reverse_cons, List.append_assoc] at hrest
    have hlt := takes_hasElement _ _ _ _ he
    obtain ⟨b, more, hb, -⟩ := hstart
    refine .go hstep ?_ hrest
    simp only [hb, List.map_cons, List.length_append, List.length_cons] at hlt ⊢
    omega

theorem reads_list (as : List α) (hr : ∀ a ∈ as, Reads item (form a) a)
    (hs : ∀ a ∈ as, Starts (form a)) :
    Reads (listWith (some item)) (.list (as.map form)) as := by
  intro s _
  have ho : Utf8.encode (chars (.list (as.map form))) ++ s =
      0x5B :: (Utf8.encode (itemsFrom true (as.map form)) ++ 0x5D :: s) := by
    have hl : String.utf8EncodeChar '[' = [0x5B] := rfl
    have hr : String.utf8EncodeChar ']' = [0x5D] := rfl
    simp [chars, itemsFrom, hl, hr]
  rw [ho, listWith, bind_ok _ (begin_cons 0x5B _ (by decide)), if_pos rfl, listOf,
    bind_ok _ (drop_cons _ _)]
  exact repeatedly_rounds (rounds_items as [] s hr hs)

theorem reads_listWith {d : Decoder α} {depth : Nat} {as : List α}
    (hn : (Json.list (as.map form)).nesting ≤ depth) (hs : ∀ a ∈ as, Starts (form a))
    (hr : ∀ a ∈ as, ∀ inner, depth = inner + 1 → (form a).nesting ≤ inner →
      Reads (d inner) (form a) a) :
    Reads (listWith (Decoder.inside d depth)) (.list (as.map form)) as := by
  obtain ⟨inner, rfl, hi⟩ := list_nesting hn
  exact reads_list as (fun a ha => hr a ha inner rfl (hi _ (List.mem_map_of_mem ha))) hs

theorem reads_mirrored {d : Decoder α} (hm : ∀ depth, Mirrors (d depth) (value depth) form)
    {as : List α} {depth : Nat} (hp : ∀ a ∈ as, (form a).isProper = true)
    (hf : (Json.list (as.map form)).isFloatFree = true)
    (hn : (Json.list (as.map form)).nesting ≤ depth) :
    Reads (Decoder.list d depth) (.list (as.map form)) as :=
  (mirrors_list hm depth).reads (reads_value (by simpa using hp) hf hn)

theorem reads_values {vs : List Json} {depth : Nat} (hp : ∀ v ∈ vs, v.isProper = true)
    (hf : (Json.list vs).isFloatFree = true) (hn : (Json.list vs).nesting ≤ depth) :
    Reads (Decoder.list .value depth) (.list vs) vs := by
  have hm (depth : Nat) : Mirrors (value depth) (value depth) id := fun _ _ _ => Iff.rfl
  have h := (mirrors_list hm depth).reads (a := vs)
  rw [List.map_id] at h
  exact h (reads_value ((isProper_list vs).mpr hp) hf hn)

end Lists

def membersFrom (initial : Bool) (ms : List (String × Json)) : List Char :=
  if initial then charsOfMembers ms else laterMembers ms

theorem memberName_written (initial : Bool) (k : String) (v : Json) (ms : List (String × Json))
    (s : List UInt8) :
    memberName? initial (Utf8.encode (membersFrom initial ((k, v) :: ms)) ++ s) =
      .ok (some k, 0x3A :: (Utf8.encode v.chars ++ (Utf8.encode (laterMembers ms) ++ s))) := by
  have hn := string_name k (Utf8.encode v.chars ++ (Utf8.encode (laterMembers ms) ++ s))
  cases initial with
  | true =>
    rw [membersFrom, if_pos rfl, charsOfMembers_cons, encode_name, Utf8.encode_append,
      List.append_assoc]
    exact (memberName_first blank_nil).trans (bind_ok _ hn)
  | false =>
    rw [membersFrom, if_neg Bool.false_ne_true, encode_laterMembers]
    exact (memberName_later blank_nil blank_nil).trans (bind_ok _ hn)

theorem memberName_closed (initial : Bool) (s : List UInt8) :
    memberName? initial (Utf8.encode (membersFrom initial []) ++ 0x7D :: s) =
      .ok (none, 0x7D :: s) := by
  cases initial <;> rfl

/-- `ms` is how a record that starts as `s` and ends up as `out` is written: members in their order,
each of them read from its value, and left out only where it may be. -/
inductive Written : List (Member σ) → σ → List (String × Json) → σ → Prop where
  | nil (s : σ) : Written [] s [] s
  | given {m : Member σ} {fields : List (Member σ)} {s out : σ} {v : Json} {set : σ → σ}
      {ms : List (String × Json)} :
      Reads m.read v set → Written fields (set s) ms out →
      Written (m :: fields) s ((m.name, v) :: ms) out
  | omitted {m : Member σ} {fields : List (Member σ)} {s out : σ} {ms : List (String × Json)} :
      m.optional = true → Written fields s ms out → Written (m :: fields) s ms out

section Records

variable {fields : List (Member σ)}

theorem memberStep_given {s : Filling σ} {m : Member σ} {set : σ → σ}
    {bs mid mid' rest : List UInt8} (hn : memberName? s.initial bs = .ok (some m.name, mid))
    (hc : colon mid = .ok ((), mid'))
    (hf : fields.find? (fun f => f.name == m.name) = some m)
    (hd : s.named.contains m.name = false) (hr : m.read mid' = .ok (set, rest)) :
    memberStep fields s bs = .ok (.inl ⟨set s.record, m.name :: s.named, false⟩, rest) := by
  rw [memberStep, bind_ok _ hn]
  dsimp only
  rw [hf]
  dsimp only
  rw [hd, if_neg Bool.false_ne_true, bind_ok _ hc, bind_ok _ hr]
  rfl

theorem memberStep_done {s : Filling σ} {bs rest : List UInt8}
    (hn : memberName? s.initial bs = .ok (none, 0x7D :: rest))
    (hf : ∀ m ∈ fields, m.optional = true ∨ m.name ∈ s.named) :
    memberStep fields s bs = .ok (.inr s.record, rest) := by
  have hm : fields.find? (fun m => !m.optional && !s.named.contains m.name) = none := by
    rw [List.find?_eq_none]
    intro m hm
    rcases hf m hm with h | h <;> simp [h]
  rw [memberStep, bind_ok _ hn]
  dsimp only
  rw [hm]
  rfl

theorem find_name (hn : (fields.map Member.name).Nodup) {m : Member σ} (hm : m ∈ fields) :
    fields.find? (fun f => f.name == m.name) = some m := by
  induction fields with
  | nil => cases hm
  | cons f fs ih =>
    obtain ⟨hf, hn⟩ := List.nodup_cons.mp hn
    rcases List.mem_cons.mp hm with rfl | hm
    · exact List.find?_cons_of_pos (beq_self_eq_true _)
    · have hne : f.name ≠ m.name := fun he => hf (he ▸ List.mem_map_of_mem hm)
      rw [List.find?_cons_of_neg (by simpa using hne)]
      exact ih hn hm

/-- What was named up to some place: no more than the members in `before`, and all of them that a
record cannot do without. -/
structure NamedUpTo (before : List (Member σ)) (named : List String) : Prop where
  known : ∀ n ∈ named, n ∈ before.map Member.name
  needed : ∀ m ∈ before, m.optional = true ∨ m.name ∈ named

theorem namedUpTo_nil : NamedUpTo ([] : List (Member σ)) [] :=
  ⟨List.forall_mem_nil _, List.forall_mem_nil _⟩

theorem NamedUpTo.given {before : List (Member σ)} {named : List String}
    (h : NamedUpTo before named) (m : Member σ) :
    NamedUpTo (before ++ [m]) (m.name :: named) := by
  constructor
  · intro n hn
    rw [List.map_append, List.mem_append]
    rcases List.mem_cons.mp hn with rfl | hn
    · exact Or.inr (List.mem_map_of_mem (List.mem_singleton_self m))
    · exact Or.inl (h.known n hn)
  · intro f hf
    rcases List.mem_append.mp hf with hf | hf
    · exact (h.needed f hf).imp_right (List.mem_cons_of_mem _)
    · rw [List.mem_singleton.mp hf]
      exact Or.inr List.mem_cons_self

theorem NamedUpTo.omitted {before : List (Member σ)} {named : List String}
    (h : NamedUpTo before named) {m : Member σ} (hm : m.optional = true) :
    NamedUpTo (before ++ [m]) named := by
  constructor
  · intro n hn
    rw [List.map_append, List.mem_append]
    exact Or.inl (h.known n hn)
  · intro f hf
    rcases List.mem_append.mp hf with hf | hf
    · exact h.needed f hf
    · rw [List.mem_singleton.mp hf]
      exact Or.inl hm

theorem rounds_members (before : List (Member σ)) {after : List (Member σ)} {named : List String}
    {initial : Bool} {s out : σ} {ms : List (String × Json)} (rest : List UInt8)
    (hn : ((before ++ after).map Member.name).Nodup) (hb : NamedUpTo before named)
    (h : Written after s ms out) :
    Rounds (memberStep (before ++ after)) ⟨s, named, initial⟩
      (Utf8.encode (membersFrom initial ms) ++ 0x7D :: rest) out rest := by
  induction h generalizing before named initial with
  | nil s =>
    rw [List.append_nil]
    exact .done (memberStep_done (memberName_closed initial rest) hb.needed)
  | @given m fields s out v set ms hr _ ih =>
    have hd : m.name ∉ named := by
      intro hm
      rw [List.map_append, List.map_cons] at hn
      exact (List.nodup_append.mp hn).2.2 _ (hb.known _ hm) _ List.mem_cons_self rfl
    have hname := memberName_written initial m.name v ms (0x7D :: rest)
    have hstep := memberStep_given (s := ⟨s, named, initial⟩) hname (colon_blank [] _ blank_nil)
      (find_name hn (by simp)) (by simpa using hd) (hr _ (boundary_members ms rest))
    have hlt := takes_memberName _ _ _ _ hname
    rw [List.append_cons] at hn hstep ⊢
    refine .go hstep ?_ (ih (before ++ [m]) hn (hb.given m))
    simp only [List.length_append, List.length_cons] at hlt ⊢
    omega
  | @omitted m fields s out ms ho _ ih =>
    rw [List.append_cons] at hn ⊢
    exact ih (before ++ [m]) hn (hb.omitted ho)

theorem encode_braces (ms : List (String × Json)) (s : List UInt8) :
    Utf8.encode (chars (.object ms)) ++ s =
      0x7B :: (Utf8.encode (membersFrom true ms) ++ 0x7D :: s) := by
  have ho : String.utf8EncodeChar '\x7b' = [0x7B] := rfl
  have hc : String.utf8EncodeChar '\x7d' = [0x7D] := rfl
  simp [chars, membersFrom, ho, hc]

/-- A record is read from what it is written as. -/
theorem record_reads {name : String} {start out : σ} {ms : List (String × Json)}
    (hn : (fields.map Member.name).Nodup) (h : Written fields start ms out) :
    Reads (record name start (some fields)) (.object ms) out := by
  intro s _
  rw [encode_braces, record, bind_ok _ (begin_cons 0x7B _ (by decide)), if_pos rfl,
    bind_ok _ (drop_cons _ _)]
  exact repeatedly_rounds (rounds_members [] s hn namedUpTo_nil h)

end Records

end RestGateway.Json.Reader

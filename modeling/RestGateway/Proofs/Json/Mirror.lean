import RestGateway.Json.Decoder
import RestGateway.Proofs.Attempts
import RestGateway.Proofs.Json.Values

/-!
# Typed readers mirror the reader of values

A typed reader streams the text straight into its type, and the reader of values builds the value
first. The one mirrors the other when it reads `a` exactly where the other reads the value that
stands for `a`, with the same rest. Strings mirror, and lists of what mirrors.
-/

set_option autoImplicit false

namespace RestGateway.Json.Reader

variable {α : Type}

/-- `r` reads `a` exactly where `u` reads the value `form a`. -/
def Mirrors (r : Reader α) (u : Reader Json) (form : α → Json) : Prop :=
  ∀ bs a rest, r bs = .ok (a, rest) ↔ u bs = .ok (form a, rest)

theorem wrongType_ne_ok (wanted : String) (bs : List UInt8) (p : α × List UInt8) :
    (wrongType wanted : Reader α) bs ≠ .ok p := by
  intro h
  unfold wrongType at h
  obtain ⟨b, mid, -, h⟩ := bind_eq_ok.mp h
  split_ifs at h
  · cases h
  · cases h
  · cases hs : scalar? b with
    | none => simp [hs, failAhead] at h
    | some r =>
      simp only [hs] at h
      obtain ⟨v, rest, -, h⟩ := bind_eq_ok.mp h
      cases h

theorem value_string_iff {depth : Nat} {bs rest : List UInt8} {s : String} :
    value depth bs = .ok (.string s, rest) ↔
      ∃ more, begin bs = .ok (0x22, 0x22 :: more) ∧ string more = .ok (s, rest) := by
  constructor
  · intro h
    obtain ⟨b, more, hb, h | h | ⟨r, hr, h⟩⟩ := value_ok h
    · obtain ⟨-, inner, items, -, hv, -⟩ := h
      cases hv
    · obtain ⟨-, inner, pairs, -, hv, -⟩ := h
      cases hv
    · obtain ⟨rfl, hs⟩ := (scalar_ok hr h).2.2 s rfl
      exact ⟨more, hb, hs⟩
  · rintro ⟨more, hb, hs⟩
    rw [value_begin hb, value_scalar (by decide) (by decide) (by decide) rfl,
      bind_ok _ (drop_cons _ more), bind_ok _ hs]
    rfl

theorem value_list_iff {depth : Nat} {bs rest : List UInt8} {items : List Json} :
    value depth bs = .ok (.list items, rest) ↔
      ∃ inner more, depth = inner + 1 ∧ begin bs = .ok (0x5B, 0x5B :: more) ∧
        Items (value inner) true more items rest := by
  constructor
  · intro h
    obtain ⟨b, more, hb, h | h | ⟨r, hr, h⟩⟩ := value_ok h
    · obtain ⟨rfl, inner, items', rfl, hv, hi⟩ := h
      cases hv
      exact ⟨inner, more, rfl, hb, hi⟩
    · obtain ⟨-, inner, pairs, -, hv, -⟩ := h
      cases hv
    · exact absurd rfl ((scalar_ok hr h).1 items)
  · rintro ⟨inner, more, rfl, hb, hi⟩
    rw [value_begin hb]
    exact value_list.mpr ⟨items, rfl, hi⟩

theorem scalar_number {b : UInt8} {r : Reader Json} {more rest : List UInt8} {n : Number}
    (hr : scalar? b = some r) (h : r (b :: more) = .ok (.number n, rest)) :
    (b = 0x2D ∧ number true more = .ok (n, rest)) ∨
      (isDigit b = true ∧ number false (b :: more) = .ok (n, rest)) := by
  unfold scalar? at hr
  split_ifs at hr with h1 h2 h3 h4 h5 h6
  all_goals cases hr
  · rw [bind_ok _ (drop_cons b more)] at h
    obtain ⟨u, hv, -⟩ := map_ok.mp h
    cases hv
  · rw [bind_ok _ (drop_cons b more)] at h
    obtain ⟨u, hv, -⟩ := map_ok.mp h
    cases hv
  · rw [bind_ok _ (drop_cons b more)] at h
    obtain ⟨u, hv, -⟩ := map_ok.mp h
    cases hv
  · rw [bind_ok _ (drop_cons b more)] at h
    obtain ⟨s, hv, -⟩ := map_ok.mp h
    cases hv
  · rw [bind_ok _ (drop_cons b more)] at h
    obtain ⟨n', hv, hn⟩ := map_ok.mp h
    cases hv
    exact Or.inl ⟨h5, hn⟩
  · obtain ⟨n', hv, hn⟩ := map_ok.mp h
    cases hv
    exact Or.inr ⟨h6, hn⟩

theorem value_number_iff {depth : Nat} {bs rest : List UInt8} {n : Number} :
    value depth bs = .ok (.number n, rest) ↔ ∃ b more, begin bs = .ok (b, b :: more) ∧
      ((b = 0x2D ∧ number true more = .ok (n, rest)) ∨
        (isDigit b = true ∧ number false (b :: more) = .ok (n, rest))) := by
  constructor
  · intro h
    obtain ⟨b, more, hb, h | h | ⟨r, hr, h⟩⟩ := value_ok h
    · obtain ⟨-, inner, items, -, hv, -⟩ := h
      cases hv
    · obtain ⟨-, inner, pairs, -, hv, -⟩ := h
      cases hv
    · exact ⟨b, more, hb, scalar_number hr h⟩
  · rintro ⟨b, more, hb, ⟨rfl, hn⟩ | ⟨hd, hn⟩⟩
    · rw [value_begin hb, value_minus, bind_ok _ hn]
      rfl
    · rw [value_begin hb, value_digit hd, bind_ok _ hn]
      rfl

theorem inRange_ok {low high n : Int} {wanted : String} {x : Number} {bs rest : List UInt8} :
    inRange low high wanted x bs = .ok (n, rest) ↔
      x = .int n ∧ rest = bs ∧ low ≤ n ∧ n ≤ high := by
  cases x with
  | float x => simp [inRange, fail]
  | int k =>
    by_cases h : low ≤ k ∧ k ≤ high
    · rw [inRange, if_pos h]
      constructor
      · rintro ⟨⟩
        exact ⟨rfl, rfl, h⟩
      · rintro ⟨⟨⟩, rfl, -⟩
        rfl
    · rw [inRange, if_neg h]
      constructor
      · intro hk
        cases hk
      · rintro ⟨⟨⟩, -, hk⟩
        exact absurd hk h

theorem integerIn_ok (depth : Nat) {low high n : Int} {wanted : String} {bs rest : List UInt8} :
    integerIn low high wanted bs = .ok (n, rest) ↔
      value depth bs = .ok (.number (.int n), rest) ∧ low ≤ n ∧ n ≤ high := by
  rw [integerIn, bind_eq_ok, value_number_iff]
  constructor
  · rintro ⟨b, mid, hb, h⟩
    obtain ⟨-, more, rfl⟩ := begin_ok hb
    split_ifs at h with hm hd
    · rw [bind_ok _ (drop_cons b more)] at h
      obtain ⟨x, mid, hx, h⟩ := bind_eq_ok.mp h
      obtain ⟨rfl, rfl, hr⟩ := inRange_ok.mp h
      exact ⟨⟨b, more, hb, Or.inl ⟨hm, hx⟩⟩, hr⟩
    · obtain ⟨x, mid, hx, h⟩ := bind_eq_ok.mp h
      obtain ⟨rfl, rfl, hr⟩ := inRange_ok.mp h
      exact ⟨⟨b, more, hb, Or.inr ⟨hd, hx⟩⟩, hr⟩
    · exact absurd h (wrongType_ne_ok _ _ _)
  · rintro ⟨⟨b, more, hb, hn⟩, hr⟩
    refine ⟨b, b :: more, hb, ?_⟩
    rcases hn with ⟨rfl, hn⟩ | ⟨hd, hn⟩
    · rw [if_pos rfl, bind_ok _ (drop_cons _ more), bind_ok _ hn]
      exact inRange_ok.mpr ⟨rfl, rfl, hr⟩
    · have hm : b ≠ 0x2D := by
        rintro rfl
        cases hd
      rw [if_neg hm, if_pos hd, bind_ok _ hn]
      exact inRange_ok.mpr ⟨rfl, rfl, hr⟩

theorem mirrors_text (wanted : String) (depth : Nat) :
    Mirrors (text wanted) (value depth) .string := by
  intro bs s rest
  rw [value_string_iff, text, bind_eq_ok]
  constructor
  · rintro ⟨b, mid, hb, h⟩
    obtain ⟨-, more, rfl⟩ := begin_ok hb
    split_ifs at h with hq
    · subst hq
      exact ⟨more, hb, h⟩
    · exact absurd h (wrongType_ne_ok _ _ _)
  · rintro ⟨more, hb, hs⟩
    exact ⟨0x22, _, hb, hs⟩

theorem mirrors_items {r : Reader α} {u : Reader Json} {form : α → Json} (hm : Mirrors r u form)
    {initial : Bool} {bs rest : List UInt8} {as : List α} :
    Items r initial bs as rest ↔ Items u initial bs (as.map form) rest := by
  constructor
  · intro h
    induction h with
    | close he => exact .close he
    | next he ha _ ih => exact .next he ((hm _ _ _).mp ha) ih
  · intro h
    generalize hvs : as.map form = vs at h
    induction h generalizing as with
    | close he =>
      obtain rfl := List.map_eq_nil_iff.mp hvs
      exact .close he
    | next he ha _ ih =>
      obtain ⟨a, as', rfl, rfl, htail⟩ := List.map_eq_cons_iff.mp hvs
      exact .next he ((hm _ _ _).mpr ha) (ih htail)

theorem mirrors_takes {r : Reader α} {depth : Nat} {form : α → Json}
    (hm : Mirrors r (value depth) form) : Takes 1 r := fun bs a rest h =>
  takes_value depth bs (form a) rest ((hm bs a rest).mp h)

theorem mirrors_list {d : Decoder α} {form : α → Json}
    (hm : ∀ depth, Mirrors (d depth) (value depth) form) (depth : Nat) :
    Mirrors (Decoder.list d depth) (value depth) fun as => .list (as.map form) := by
  intro bs as rest
  rw [value_list_iff, Decoder.list, listWith, bind_eq_ok]
  constructor
  · rintro ⟨b, mid, hb, h⟩
    obtain ⟨-, more, rfl⟩ := begin_ok hb
    split_ifs at h with hl
    · subst hl
      cases depth with
      | zero => cases h
      | succ depth =>
        have hi := (repeatedly_items (mirrors_takes (hm depth))).mp h
        exact ⟨depth, more, rfl, hb, (mirrors_items (hm depth)).mp hi⟩
    · exact absurd h (wrongType_ne_ok _ _ _)
  · rintro ⟨inner, more, rfl, hb, hi⟩
    have hr := (mirrors_items (hm inner)).mpr hi
    exact ⟨0x5B, _, hb, (repeatedly_items (mirrors_takes (hm inner))).mpr hr⟩

theorem endList_iff {bs rest : List UInt8} :
    endList bs = .ok ((), rest) ↔ hasElement false bs = .ok (false, 0x5D :: rest) := by
  rw [hasElement_false]
  constructor
  · intro h
    unfold endList at h
    obtain ⟨o, mid, hf, h⟩ := bind_eq_ok.mp h
    cases o with
    | none => cases h
    | some b =>
      obtain ⟨more, rfl⟩ := first_some _ _ _ hf
      dsimp only at h
      split_ifs at h with hb hc
      · cases h
        rw [hf, hb]
        rfl
      · rw [bind_ok _ (drop_cons b more)] at h
        obtain ⟨o, mid', -, h⟩ := bind_eq_ok.mp h
        cases o <;> cases h
      · cases h
  · intro h
    rw [endList, bind_ok _ h]
    rfl

variable {σ : Type}

theorem elements_nil {tooShort : Nat → Cause} {place : Nat} {initial : Bool} {s out : σ}
    {bs rest : List UInt8} : elements tooShort [] place initial s bs = .ok (out, rest) ↔
      out = s ∧ hasElement false bs = .ok (false, 0x5D :: rest) := by
  rw [← endList_iff, elements, bind_eq_ok]
  constructor
  · rintro ⟨u, mid, he, h⟩
    cases h
    exact ⟨rfl, he⟩
  · rintro ⟨rfl, he⟩
    exact ⟨(), rest, he, rfl⟩

theorem elements_required {tooShort : Nat → Cause} {name : String} {set : α → σ → σ}
    {r : Reader α} {members : List (Member σ)} {place : Nat} {initial : Bool} {s out : σ}
    {bs rest : List UInt8} :
    elements tooShort (required name set r :: members) place initial s bs = .ok (out, rest) ↔
      ∃ mid a more, hasElement initial bs = .ok (true, mid) ∧ r mid = .ok (a, more) ∧
        elements tooShort members (place + 1) false (set a s) more = .ok (out, rest) := by
  rw [elements, bind_eq_ok]
  constructor
  · rintro ⟨e, mid, he, h⟩
    cases e with
    | false => cases h
    | true =>
      obtain ⟨g, more, hg, h⟩ := bind_eq_ok.mp h
      simp only [required, map_eq_pure_bind] at hg
      obtain ⟨a, more', ha, hp⟩ := bind_eq_ok.mp hg
      cases hp
      exact ⟨mid, a, more, he, ha, h⟩
  · rintro ⟨mid, a, more, he, ha, h⟩
    refine ⟨true, mid, he, bind_eq_ok.mpr ⟨set a, more, ?_, h⟩⟩
    simp only [required, map_eq_pure_bind]
    exact bind_ok _ ha

def tupleTooShort (name : String) (members : List (Member σ)) (n : Nat) : Cause :=
  .wrongLength n (name ++ " with " ++ elementCount members.length)

theorem tuple_iff {name : String} {start out : σ} {members : Nat → List (Member σ)} {depth : Nat}
    {bs rest : List UInt8} :
    Decoder.tuple name start members depth bs = .ok (out, rest) ↔
      ∃ inner more, depth = inner + 1 ∧ begin bs = .ok (0x5B, 0x5B :: more) ∧
        elements (tupleTooShort name (members inner)) (members inner) 0 true start more =
          .ok (out, rest) := by
  constructor
  · intro h
    cases depth with
    | zero =>
      rw [Decoder.tuple, tuple] at h
      obtain ⟨b, mid, -, h⟩ := bind_eq_ok.mp h
      split_ifs at h
      · cases h
      · exact absurd h (wrongType_ne_ok _ _ _)
    | succ depth =>
      rw [Decoder.tuple, tuple] at h
      obtain ⟨b, mid, hb, h⟩ := bind_eq_ok.mp h
      obtain ⟨-, more, rfl⟩ := begin_ok hb
      split_ifs at h with hl
      · subst hl
        exact ⟨depth, more, rfl, hb, h⟩
      · exact absurd h (wrongType_ne_ok _ _ _)
  · rintro ⟨inner, more, rfl, hb, h⟩
    rw [Decoder.tuple, tuple, bind_ok _ hb]
    exact h

theorem members_ok {depth : Nat} {bs rest : List UInt8} {ms : Members} :
    Decoder.members (depth + 1) bs = .ok (ms, rest) ↔
      ∃ more ps, begin bs = .ok (0x7B, 0x7B :: more) ∧ Pairs (value depth) true more ps rest ∧
        ms = Members.ofPairs ps := by
  have hi : Takes 1 (value depth) := takes_value depth
  rw [Decoder.members, membersWith, bind_eq_ok]
  constructor
  · rintro ⟨b, mid, hb, h⟩
    obtain ⟨-, more, rfl⟩ := begin_ok hb
    split_ifs at h with ho
    · subst ho
      obtain ⟨ps, w, hp, h⟩ := bind_eq_ok.mp h
      rw [Decoder.inside, objectOf, bind_ok _ (drop_cons _ more)] at hp
      cases h
      exact ⟨more, ps, hb, (repeatedly_pairs hi).mp hp, rfl⟩
    · exact absurd h (wrongType_ne_ok _ _ _)
  · rintro ⟨more, ps, hb, hp, rfl⟩
    refine ⟨0x7B, 0x7B :: more, hb, ?_⟩
    rw [if_pos rfl]
    refine bind_eq_ok.mpr ⟨ps, rest, ?_, rfl⟩
    rw [Decoder.inside, objectOf, bind_ok _ (drop_cons _ more)]
    exact (repeatedly_pairs hi).mpr hp

theorem mirrors_members (depth : Nat) :
    Mirrors (Decoder.members depth) (value depth) .object := by
  intro bs ms rest
  cases depth with
  | zero =>
    constructor
    · intro h
      rw [Decoder.members, membersWith] at h
      obtain ⟨b, mid, -, h⟩ := bind_eq_ok.mp h
      split_ifs at h
      · cases h
      · exact absurd h (wrongType_ne_ok _ _ _)
    · intro h
      obtain ⟨b, more, -, ⟨-, _, _, hd, -⟩ | ⟨-, _, _, hd, -⟩ | ⟨r, hr, h⟩⟩ := value_ok h
      · cases hd
      · cases hd
      · exact absurd rfl ((scalar_ok hr h).2.1 ms)
  | succ depth =>
    rw [members_ok]
    constructor
    · rintro ⟨more, ps, hb, hp, rfl⟩
      rw [value_begin hb]
      exact value_object.mpr ⟨ps, rfl, hp⟩
    · intro h
      obtain ⟨b, more, hb, ⟨-, _, _, -, hv, -⟩ | ⟨rfl, _, ps, hd, hv, hp⟩ | ⟨r, hr, h⟩⟩ :=
        value_ok h
      · cases hv
      · cases hd
        cases hv
        exact ⟨more, ps, hb, hp, rfl⟩
      · exact absurd rfl ((scalar_ok hr h).2.1 ms)

theorem decode_ok {d : Decoder α} {input : List UInt8} {a : α} :
    d.decode input = .ok a ↔ ∃ w, d Decoder.levels input = .ok (a, w) ∧ Blanks w := by
  rw [← whole_ok, Decoder.decode, Decoder.run]
  cases whole (d Decoder.levels) input <;> simp

end RestGateway.Json.Reader

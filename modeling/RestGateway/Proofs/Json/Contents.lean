import Mathlib.Data.String.Basic
import RestGateway.Json.Basic

/-!
# What occurs in a value

Induction over values, and two properties that concern all numbers and all objects inside one: that
no float occurs, and that integers and member names are as they are in any value that was read. Of a
value whose members are in no order, `asRead` is the value that its text stands for.
-/

set_option autoImplicit false

namespace RestGateway

def Number.isInteger : Number → Bool
  | .int _ => true
  | .float _ => false

def Number.fits : Number → Bool
  | .int n => Word.least ≤ n && n < (UInt64.size : Int)
  | .float _ => true

theorem Number.fits_int (n : Int) :
    (Number.int n).fits = true ↔ Word.least ≤ n ∧ n < (UInt64.size : Int) := by
  rw [fits, Bool.and_eq_true, decide_eq_true_iff, decide_eq_true_iff]

namespace Json

section Induction

variable {P : Json → Prop} (null : P .null) (bool : ∀ b, P (.bool b)) (number : ∀ n, P (.number n))
  (string : ∀ s, P (.string s)) (list : ∀ items : List Json, (∀ v ∈ items, P v) → P (.list items))
  (object : ∀ members : List (String × Json), (∀ m ∈ members, P m.2) → P (.object members))

include null bool number string list object

/-- What holds of a list when it holds of its items, and likewise of an object, holds of every
value. -/
theorem induct (v : Json) : P v :=
  Json.rec (motive_1 := P) (motive_2 := fun items => ∀ v ∈ items, P v)
    (motive_3 := fun members => ∀ m ∈ members, P m.2) (motive_4 := fun m => P m.2)
    null bool number string list object (List.forall_mem_nil _)
    (fun _ _ hv hvs => List.forall_mem_cons.mpr ⟨hv, hvs⟩) (List.forall_mem_nil _)
    (fun _ _ hm hms => List.forall_mem_cons.mpr ⟨hm, hms⟩) (fun _ _ hv => hv) v

end Induction

section Every

variable (number : Number → Bool) (names : List String → Bool)

mutual

/-- Whether `number` holds of all numbers in a value and `names` of the names of each object. -/
def every : Json → Bool
  | .number n => number n
  | .list items => everyItem items
  | .object members => names (members.map Prod.fst) && everyMember members
  | _ => true

def everyItem : List Json → Bool
  | [] => true
  | v :: vs => every v && everyItem vs

def everyMember : List (String × Json) → Bool
  | [] => true
  | (_, v) :: ms => every v && everyMember ms

end

theorem everyItem_iff (items : List Json) :
    everyItem number names items = true ↔ ∀ v ∈ items, v.every number names = true := by
  induction items with
  | nil => simp [everyItem]
  | cons v vs ih => simp [everyItem, ih]

theorem everyMember_iff (members : List (String × Json)) :
    everyMember number names members = true ↔ ∀ m ∈ members, m.2.every number names = true := by
  induction members with
  | nil => simp [everyMember]
  | cons m ms ih => simp [everyMember, ih]

@[simp] theorem every_null : Json.null.every number names = true := rfl

@[simp] theorem every_bool (b : Bool) : (Json.bool b).every number names = true := rfl

@[simp] theorem every_string (s : String) : (Json.string s).every number names = true := rfl

@[simp] theorem every_number (n : Number) : (Json.number n).every number names = number n := rfl

@[simp] theorem every_list (items : List Json) : (Json.list items).every number names = true ↔
    ∀ v ∈ items, v.every number names = true := by
  rw [every, everyItem_iff]

@[simp] theorem every_object (members : List (String × Json)) :
    (Json.object members).every number names = true ↔
      names (members.map Prod.fst) = true ∧ ∀ m ∈ members, m.2.every number names = true := by
  rw [every, Bool.and_eq_true, everyMember_iff]

end Every

theorem every_mono {number number' : Number → Bool} {names names' : List String → Bool}
    (hn : ∀ n, number n = true → number' n = true)
    (hs : ∀ l, names l = true → names' l = true) (v : Json)
    (h : v.every number names = true) : v.every number' names' = true := by
  induction v using induct with
  | null => rfl
  | bool b => rfl
  | number n => exact hn n h
  | string s => rfl
  | list items ih =>
    rw [every_list] at h ⊢
    intro v hv
    exact ih v hv (h v hv)
  | object members ih =>
    rw [every_object] at h ⊢
    exact ⟨hs _ h.1, fun m hm => ih m hm (h.2 m hm)⟩

def isFloatFree (v : Json) : Bool := v.every Number.isInteger fun _ => true

def fits (v : Json) : Bool := v.every Number.fits fun _ => true

def ascending (names : List String) : Bool := decide (names.Pairwise (· < ·))

/-- As every value is that was read: integers have 64 bits, and the members of an object are in
ascending order of names with no name twice. -/
def isProper (v : Json) : Bool := v.every Number.fits ascending

theorem isProper_fits (v : Json) (h : v.isProper = true) : v.fits = true :=
  every_mono (fun _ h => h) (fun _ _ => rfl) v h

@[simp] theorem isFloatFree_string (s : String) : (Json.string s).isFloatFree = true := rfl

@[simp] theorem isFloatFree_list (items : List Json) :
    (Json.list items).isFloatFree = true ↔ ∀ v ∈ items, v.isFloatFree = true :=
  every_list _ _ items

@[simp] theorem isFloatFree_object (members : List (String × Json)) :
    (Json.object members).isFloatFree = true ↔ ∀ m ∈ members, m.2.isFloatFree = true := by
  simp [isFloatFree]

@[simp] theorem isProper_list (items : List Json) :
    (Json.list items).isProper = true ↔ ∀ v ∈ items, v.isProper = true :=
  every_list _ _ items

@[simp] theorem fits_bool (b : Bool) : (Json.bool b).fits = true := rfl

@[simp] theorem fits_string (s : String) : (Json.string s).fits = true := rfl

@[simp] theorem fits_list (items : List Json) :
    (Json.list items).fits = true ↔ ∀ v ∈ items, v.fits = true :=
  every_list _ _ items

@[simp] theorem fits_object (members : List (String × Json)) :
    (Json.object members).fits = true ↔ ∀ m ∈ members, m.2.fits = true := by
  simp [fits]

mutual

/-- The value that a value's text stands for: the members of every object in ascending order of
names, and of those with one name the last one. -/
def asRead : Json → Json
  | .list items => .list (itemsAsRead items)
  | .object members => .object (Members.ofPairs (membersAsRead members))
  | .null => .null
  | .bool b => .bool b
  | .number n => .number n
  | .string s => .string s

def itemsAsRead : List Json → List Json
  | [] => []
  | v :: vs => asRead v :: itemsAsRead vs

def membersAsRead : List (String × Json) → List (String × Json)
  | [] => []
  | (k, v) :: ms => (k, asRead v) :: membersAsRead ms

end

theorem itemsAsRead_eq (items : List Json) : itemsAsRead items = items.map asRead := by
  induction items with
  | nil => rfl
  | cons v vs ih => rw [itemsAsRead, ih, List.map_cons]

theorem membersAsRead_eq (members : List (String × Json)) :
    membersAsRead members = members.map fun m => (m.1, m.2.asRead) := by
  induction members with
  | nil => rfl
  | cons m ms ih => rw [membersAsRead, ih, List.map_cons]

@[simp] theorem asRead_string (s : String) : (Json.string s).asRead = .string s := rfl

@[simp] theorem asRead_bool (b : Bool) : (Json.bool b).asRead = .bool b := rfl

@[simp] theorem asRead_number (n : Number) : (Json.number n).asRead = .number n := rfl

@[simp] theorem asRead_list (items : List Json) :
    (Json.list items).asRead = .list (items.map asRead) := by
  rw [asRead, itemsAsRead_eq]

@[simp] theorem asRead_object (members : List (String × Json)) : (Json.object members).asRead =
    .object (Members.ofPairs (members.map fun m => (m.1, m.2.asRead))) := by
  rw [asRead, membersAsRead_eq]

end Json

namespace Members

@[simp] theorem addMissing_nil (name : String) (value : Json) :
    addMissing name value [] = [(name, value)] := rfl

@[simp] theorem addMissing_before {name k : String} (value v : Json) (ms : Members) (h : name < k) :
    addMissing name value ((k, v) :: ms) = (name, value) :: (k, v) :: ms := by
  rw [addMissing, if_pos h]

@[simp] theorem addMissing_after {name k : String} (value v : Json) (ms : Members) (h : k < name) :
    addMissing name value ((k, v) :: ms) = (k, v) :: addMissing name value ms := by
  rw [addMissing, if_neg (lt_asymm h), if_neg (ne_of_gt h)]

theorem addMissing_first (name : String) (value : Json) (ms : Members)
    (h : ∀ m ∈ ms, name < m.1) : addMissing name value ms = (name, value) :: ms := by
  cases ms with
  | nil => rfl
  | cons m ms => exact addMissing_before value m.2 ms (h m List.mem_cons_self)

theorem ofPairs_ascending (ms : Members) (h : ms.Pairwise fun a b => a.1 < b.1) :
    ofPairs ms = ms := by
  induction ms with
  | nil => rfl
  | cons m ms ih =>
    obtain ⟨hm, hms⟩ := List.pairwise_cons.mp h
    rw [ofPairs_cons, ih hms, addMissing_first m.1 m.2 ms hm]

theorem mem_addMissing {name : String} {value : Json} {ms : Members} {m : String × Json}
    (h : m ∈ addMissing name value ms) : m = (name, value) ∨ m ∈ ms := by
  induction ms with
  | nil => exact Or.inl (List.mem_singleton.mp h)
  | cons p ms ih =>
    obtain ⟨k, v⟩ := p
    simp only [addMissing] at h
    split_ifs at h
    · exact List.mem_cons.mp h
    · exact Or.inr h
    · rcases List.mem_cons.mp h with rfl | h
      · exact Or.inr List.mem_cons_self
      · exact (ih h).imp_right (List.mem_cons_of_mem _)

theorem mem_ofPairs {ps : List (String × Json)} {m : String × Json} (h : m ∈ ofPairs ps) :
    m ∈ ps := by
  induction ps with
  | nil => exact h
  | cons p ps ih =>
    rcases mem_addMissing h with rfl | h
    · exact List.mem_cons_self
    · exact List.mem_cons_of_mem _ (ih h)

theorem addMissing_pairwise (name : String) (value : Json) (ms : Members)
    (h : ms.Pairwise fun a b => a.1 < b.1) :
    (addMissing name value ms).Pairwise fun a b => a.1 < b.1 := by
  induction ms with
  | nil => exact List.pairwise_singleton _ _
  | cons p ms ih =>
    obtain ⟨k, v⟩ := p
    obtain ⟨hk, hms⟩ := List.pairwise_cons.mp h
    simp only [addMissing]
    split_ifs with hlt heq
    · apply List.pairwise_cons.mpr ⟨?_, h⟩
      intro m hm
      rcases List.mem_cons.mp hm with rfl | hm
      · exact hlt
      · exact lt_trans hlt (hk m hm)
    · exact h
    · apply List.pairwise_cons.mpr ⟨?_, ih hms⟩
      intro m hm
      rcases mem_addMissing hm with rfl | hm
      · exact lt_of_le_of_ne (not_lt.mp hlt) (Ne.symm heq)
      · exact hk m hm

theorem ofPairs_pairwise (ps : List (String × Json)) :
    (ofPairs ps).Pairwise fun a b => a.1 < b.1 := by
  induction ps with
  | nil => exact .nil
  | cons p ps ih => exact addMissing_pairwise p.1 p.2 _ ih

theorem lookup_addMissing_other {name k : String} (value : Json) (ms : Members) (hk : k ≠ name) :
    (addMissing name value ms).lookup k = ms.lookup k := by
  have hb : (k == name) = false := beq_false_of_ne hk
  induction ms with
  | nil => simp [List.lookup_cons, hb]
  | cons m ms ih =>
    obtain ⟨l, v⟩ := m
    simp only [addMissing]
    split_ifs
    · simp [List.lookup_cons, hb]
    · rfl
    · rw [List.lookup_cons, List.lookup_cons, ih]

theorem lookup_addMissing (name : String) (value : Json) {ms : Members}
    (h : ms.Pairwise fun a b => a.1 < b.1) :
    (addMissing name value ms).lookup name = (ms.lookup name).or (some value) := by
  induction ms with
  | nil => simp
  | cons m ms ih =>
    obtain ⟨l, v⟩ := m
    obtain ⟨hl, hms⟩ := List.pairwise_cons.mp h
    simp only [addMissing]
    split_ifs with hlt heq
    · have hnone : ((l, v) :: ms).lookup name = none := by
        refine List.lookup_eq_none_iff.mpr fun m hm => bne_iff_ne.mpr (ne_of_lt ?_)
        rcases List.mem_cons.mp hm with rfl | hm
        · exact hlt
        · exact lt_trans hlt (hl m hm)
      rw [hnone]
      simp
    · simp [heq]
    · have hb : (name == l) = false := beq_false_of_ne heq
      simp only [List.lookup_cons, hb]
      exact ih hms

/-- Of pairs with one name the last one counts. -/
theorem lookup_ofPairs (ps : List (String × Json)) (k : String) :
    (ofPairs ps).lookup k = ps.reverse.lookup k := by
  induction ps with
  | nil => rfl
  | cons p ps ih =>
    obtain ⟨l, v⟩ := p
    rw [ofPairs_cons, List.reverse_cons, List.lookup_append, ← ih]
    by_cases hk : k = l
    · subst hk
      rw [lookup_addMissing k v (ofPairs_pairwise ps)]
      simp
    · have hb : (k == l) = false := beq_false_of_ne hk
      rw [lookup_addMissing_other v _ hk]
      simp [List.lookup_cons, hb]

theorem ascending_iff (ms : Members) :
    Json.ascending (ms.map Prod.fst) = true ↔ ms.Pairwise fun a b => a.1 < b.1 := by
  rw [Json.ascending, decide_eq_true_iff, List.pairwise_map]

end Members

theorem Json.asRead_proper (v : Json) (h : v.isProper = true) : v.asRead = v := by
  unfold isProper at h
  induction v using induct with
  | null => rfl
  | bool b => rfl
  | number n => rfl
  | string s => rfl
  | list items ih =>
    rw [every_list] at h
    rw [asRead_list, List.map_congr_left fun v hv => ih v hv (h v hv), List.map_id']
  | object members ih =>
    rw [every_object, Members.ascending_iff] at h
    have hm : members.map (fun m => (m.1, m.2.asRead)) = members := by
      rw [List.map_congr_left fun m hm => by rw [ih m hm (h.2 m hm)]]
      exact List.map_id' members
    rw [asRead_object, hm, Members.ofPairs_ascending members h.1]

theorem Json.object_proper (ps : List (String × Json)) (h : ∀ p ∈ ps, p.2.isProper = true) :
    (Json.object (Members.ofPairs ps)).isProper = true := by
  rw [isProper, every_object, Members.ascending_iff]
  exact ⟨Members.ofPairs_pairwise ps, fun m hm => h m (Members.mem_ofPairs hm)⟩

end RestGateway

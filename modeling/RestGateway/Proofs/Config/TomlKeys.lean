import Mathlib.Tactic.SplitIfs
import RestGateway.Config.Toml.Document
import RestGateway.Proofs.Config.Tables
import RestGateway.Proofs.Text.Scans

/-!
# TOML documents define no key twice

Whatever the order of a document's headers, dotted keys and inline tables, none of the tables that it
describes has two entries for one key.
-/

set_option autoImplicit false

namespace RestGateway.Config.Toml

open Scan

def Nodes.Once (ns : Nodes) : Prop := Entries.Lawful (fun _ s => s.Once) (settingsOf ns)

namespace Nodes

theorem settingsOf_put (key : String) (node : Node) (ns : Nodes) :
    settingsOf (put key node ns) = Setting.put key node.setting (settingsOf ns) := by
  induction ns with
  | nil => rfl
  | cons e rest ih =>
    obtain ⟨k, n⟩ := e
    by_cases hk : k = key
    · rw [put, if_pos hk, settingsOf, settingsOf, Setting.put, if_pos hk]
    · rw [put, if_neg hk, settingsOf, settingsOf, Setting.put, if_neg hk, ih]

theorem lookup_settingsOf (key : String) (ns : Nodes) :
    (settingsOf ns).lookup key = (ns.lookup key).map Node.setting := by
  induction ns with
  | nil => rfl
  | cons e rest ih =>
    obtain ⟨k, n⟩ := e
    rw [settingsOf, List.lookup_cons, List.lookup_cons, ih]
    cases key == k <;> rfl

theorem settingsOfAll_append (closed : List Nodes) (last : Nodes) :
    settingsOfAll (closed ++ [last]) = settingsOfAll closed ++ [.table (settingsOf last)] := by
  induction closed with
  | nil => rfl
  | cons ns rest ih => rw [List.cons_append, settingsOfAll, settingsOfAll, ih, List.cons_append]

variable {ns next : Nodes} {key : String}

theorem once_nil : Once [] := .nil

theorem Once.put (h : Once ns) {node : Node} (hn : node.setting.Once) : Once (put key node ns) := by
  unfold Once
  rw [settingsOf_put]
  exact Setting.put_lawful h hn

theorem Once.lookup (h : Once ns) {node : Node} (hl : ns.lookup key = some node) :
    node.setting.Once := by
  apply Entries.Lawful.lookup h
  rw [lookup_settingsOf, hl]
  rfl

theorem once_table {role : Role} {inner : Nodes} :
    (Node.table role inner).setting.Once ↔ Once inner := by
  rw [Node.setting]
  exact Setting.once_table

theorem once_tables {closed : List Nodes} {last : Nodes} :
    (Node.tables closed last).setting.Once ↔
      (∀ s ∈ settingsOfAll closed, s.Once) ∧ Once last := by
  rw [Node.setting]
  constructor
  · rintro ⟨⟩
    next h =>
    obtain ⟨hclosed, hlast⟩ := List.forall_mem_append.mp h
    exact ⟨hclosed, Setting.once_table.mp (hlast _ (by simp))⟩
  · rintro ⟨hclosed, hlast⟩
    refine .list (List.forall_mem_append.mpr ⟨hclosed, ?_⟩)
    simpa using Setting.once_table.mpr hlast

theorem assign_once {path : List String} {s : Setting} (h : assign path key s ns = some next)
    (hs : s.Once) (hns : Once ns) : Once next := by
  induction path generalizing ns next with
  | nil =>
    rw [assign] at h
    split_ifs at h
    cases h
    exact hns.put hs
  | cons p path ih =>
    rw [assign] at h
    split at h
    · obtain ⟨inner, hinner, h⟩ := Option.bind_eq_some_iff.mp h
      cases h
      exact hns.put (once_table.mpr (ih hinner once_nil))
    · next role inner hl =>
      split_ifs at h
      obtain ⟨inner', hinner, h⟩ := Option.bind_eq_some_iff.mp h
      cases h
      exact hns.put (once_table.mpr (ih hinner (once_table.mp (hns.lookup hl))))
    · next closed last hl =>
      split_ifs at h
      obtain ⟨last', hlast, h⟩ := Option.bind_eq_some_iff.mp h
      cases h
      obtain ⟨hclosed, honce⟩ := once_tables.mp (hns.lookup hl)
      exact hns.put (once_tables.mpr ⟨hclosed, ih hlast honce⟩)
    · cases h

theorem inside_once {change : Nodes → Option Nodes} {path : List String}
    (hc : ∀ ns next, change ns = some next → Once ns → Once next)
    (h : inside change path ns = some next) (hns : Once ns) : Once next := by
  induction path generalizing ns next with
  | nil => exact hc ns next h hns
  | cons p path ih =>
    rw [inside] at h
    split at h
    · obtain ⟨inner, hinner, h⟩ := Option.bind_eq_some_iff.mp h
      cases h
      exact hns.put (once_table.mpr (ih hinner once_nil))
    · next role inner hl =>
      obtain ⟨inner', hinner, h⟩ := Option.bind_eq_some_iff.mp h
      cases h
      exact hns.put (once_table.mpr (ih hinner (once_table.mp (hns.lookup hl))))
    · next closed last hl =>
      obtain ⟨last', hlast, h⟩ := Option.bind_eq_some_iff.mp h
      cases h
      obtain ⟨hclosed, honce⟩ := once_tables.mp (hns.lookup hl)
      exact hns.put (once_tables.mpr ⟨hclosed, ih hlast honce⟩)
    · cases h

theorem openTable_once (h : openTable key ns = some next) (hns : Once ns) : Once next := by
  unfold openTable at h
  split at h
  · cases h
    exact hns.put (once_table.mpr once_nil)
  · next inner hl =>
    cases h
    exact hns.put (once_table.mpr (once_table.mp (hns.lookup hl)))
  · cases h

theorem openItem_once (h : openItem key ns = some next) (hns : Once ns) : Once next := by
  unfold openItem at h
  split at h
  · cases h
    exact hns.put (once_tables.mpr ⟨by simp [settingsOfAll], once_nil⟩)
  · next closed last hl =>
    cases h
    obtain ⟨hclosed, hlast⟩ := once_tables.mp (hns.lookup hl)
    refine hns.put (once_tables.mpr ⟨?_, once_nil⟩)
    rw [settingsOfAll_append]
    refine List.forall_mem_append.mpr ⟨hclosed, ?_⟩
    simpa using Setting.once_table.mpr hlast
  · cases h

end Nodes

variable {s : Setting}

theorem inWord_once {n : Int} (h : inWord n = some s) : s.Once := by
  obtain ⟨m, -, rfl⟩ := Option.map_eq_some_iff.mp h
  exact .signed m

theorem toBase_once {base : Nat} {cs : List Char} (h : toBase base cs = some s) : s.Once := by
  obtain ⟨ds, -, h⟩ := Option.bind_eq_some_iff.mp h
  exact inWord_once h

theorem finite_once {negative : Bool} {x : Float} (h : decimal.finite negative x = some s) :
    s.Once := by
  simp only [decimal.finite, Option.ite_none_left_eq_some] at h
  obtain ⟨-, h⟩ := h
  cases h
  exact .float _

theorem decimal_once {negative : Bool} {cs : List Char} (h : decimal negative cs = some s) :
    s.Once := by
  simp only [decimal] at h
  split at h
  all_goals
    obtain ⟨exponent, -, h⟩ := Option.bind_eq_some_iff.mp h
    split at h
    · obtain ⟨ds, -, h⟩ := Option.bind_eq_some_iff.mp h
      split_ifs at h
      · exact inWord_once h
      · obtain ⟨x, -, h⟩ := Option.bind_eq_some_iff.mp h
        exact finite_once h
    · obtain ⟨ds, -, h⟩ := Option.bind_eq_some_iff.mp h
      obtain ⟨fraction, -, h⟩ := Option.bind_eq_some_iff.mp h
      obtain ⟨x, -, h⟩ := Option.bind_eq_some_iff.mp h
      exact finite_once h

theorem unsignedNumber_once {negative : Bool} {cs : List Char}
    (h : unsignedNumber negative cs = some s) : s.Once := by
  unfold unsignedNumber at h
  split_ifs at h
  · cases h
    exact .float _
  · cases h
    exact .float _
  · cases h
    exact .float _
  · exact decimal_once h

theorem word_once {cs : List Char} (h : word? cs = some s) : s.Once := by
  unfold word? at h
  split at h
  · exact toBase_once h
  · exact toBase_once h
  · exact toBase_once h
  · exact unsignedNumber_once h
  · exact unsignedNumber_once h
  · split_ifs at h
    · cases h
      exact .bool _
    · cases h
      exact .bool _
    · exact unsignedNumber_once h

theorem ofMoment_once (text : List Char) : (ofMoment text).Once :=
  Setting.once_table.mpr (Entries.Lawful.cons_iff.mpr ⟨by simp, .string _, .nil⟩)

variable {value : Scan Setting}

theorem items_once (hv : Yields value Setting.Once) :
    Yields (items value) fun items => ∀ s ∈ items, s.Once := by
  refine yields_repeatedly (I := fun done => ∀ s ∈ done, s.Once) (fun done hdone => ?_) (by simp)
  refine yields_then fun _ => yields_then fun closed => ?_
  cases closed with
  | true => exact yields_pure (by simpa [Leaves] using hdone)
  | false =>
    refine yields_bind hv fun s hs => yields_then fun _ => yields_then fun more => ?_
    have hboth : ∀ t ∈ s :: done, t.Once := List.forall_mem_cons.mpr ⟨hs, hdone⟩
    cases more with
    | true => exact yields_pure hboth
    | false => exact yields_then fun _ => yields_pure fun t ht => hboth t (List.mem_reverse.mp ht)

theorem assignment_once (hv : Yields value Setting.Once) :
    Yields (assignment value) fun a => a.2.2.Once :=
  yields_then fun _ => yields_then fun _ => yields_then fun _ =>
    yields_bind hv fun _ hs => yields_pure hs

theorem define_once {ns : Nodes} (hv : Yields value Setting.Once) (hns : ns.Once) :
    Yields (define ns value) Nodes.Once := by
  refine yields_bind (assignment_once hv) fun a hs => ?_
  obtain ⟨path, last, s⟩ := a
  dsimp only
  split
  · next next h => exact yields_pure (Nodes.assign_once h hs hns)
  · exact yields_refuse

theorem inlineTable_once (hv : Yields value Setting.Once) :
    Yields (inlineTable value) Setting.Once := by
  refine yields_then fun _ => yields_then fun closed => ?_
  cases closed with
  | true => exact yields_pure (Setting.once_table.mpr .nil)
  | false =>
    refine yields_repeatedly (I := Nodes.Once) (fun ns hns => ?_) Nodes.once_nil
    refine yields_bind (define_once hv hns) fun ns hns => yields_then fun _ =>
      yields_then fun more => ?_
    cases more with
    | true => exact yields_pure hns
    | false => exact yields_then fun _ => yields_pure (Setting.once_table.mpr hns)

theorem valueWith_once {inner : Option (Scan Setting)}
    (hi : ∀ r, inner = some r → Yields r Setting.Once) : Yields (valueWith inner) Setting.Once := by
  refine yields_then fun text? => ?_
  cases text? with
  | some text => exact yields_pure (.string text)
  | none =>
    refine yields_then fun list => ?_
    cases list with
    | true =>
      cases inner with
      | some r => exact yields_map (items_once (hi r rfl)) fun items h => .list h
      | none => exact yields_refuse
    | false =>
      refine yields_then fun table => ?_
      cases table with
      | true =>
        cases inner with
        | some r => exact inlineTable_once (hi r rfl)
        | none => exact yields_refuse
      | false =>
        refine yields_then fun moment => ?_
        cases moment with
        | some text => exact yields_pure (ofMoment_once text)
        | none =>
          refine yields_then fun word => ?_
          intro rest s left h
          obtain ⟨t, ht, h⟩ := Option.map_eq_some_iff.mp h
          cases h
          exact word_once ht

theorem value_once (depth : Nat) : Yields (Toml.value depth) Setting.Once := by
  induction depth with
  | zero => exact valueWith_once (by simp)
  | succ depth ih =>
    refine valueWith_once fun r hr => ?_
    cases hr
    exact ih

theorem open_once {d : Draft} {path : List String} {last : String}
    {create : String → Nodes → Option Nodes}
    (hc : ∀ ns next, create last ns = some next → ns.Once → next.Once) (hd : d.nodes.Once) :
    Yields (d.open? path last create) fun d => d.nodes.Once := by
  intro rest d' left h
  obtain ⟨nodes, hnodes, h⟩ := Option.bind_eq_some_iff.mp h
  cases h
  exact Nodes.inside_once hc hnodes hd

theorem header_once {d : Draft} (hd : d.nodes.Once) :
    Yields (header d) fun d => d.nodes.Once := by
  refine yields_then fun item => ?_
  cases item with
  | true =>
    exact yields_then fun _ => yields_then fun _ =>
      open_once (fun _ _ h hns => Nodes.openItem_once h hns) hd
  | false =>
    exact yields_then fun _ => yields_then fun _ =>
      open_once (fun _ _ h hns => Nodes.openTable_once h hns) hd

theorem definition_once {d : Draft} (hd : d.nodes.Once) :
    Yields (definition d) fun d => d.nodes.Once := by
  refine yields_bind (assignment_once (value_once levels)) fun a hs => ?_
  intro rest d' left h
  obtain ⟨nodes, hnodes, h⟩ := Option.bind_eq_some_iff.mp h
  cases h
  exact Nodes.inside_once (fun _ _ h hns => Nodes.assign_once h hs hns) hnodes hd

theorem statement_once {d : Draft} (hd : d.nodes.Once) (c : Char) :
    Yields (statement d c) fun d => d.nodes.Once := by
  unfold statement
  split_ifs
  · exact yields_then fun _ => header_once hd
  · exact definition_once hd

theorem line_once {d : Draft} (hd : d.nodes.Once) :
    Yields (line d) (Leaves (fun d => d.nodes.Once) Setting.Once) := by
  refine yields_then fun _ => yields_then fun c? => ?_
  cases c? with
  | none => exact yields_pure (Setting.once_table.mpr hd)
  | some c => exact yields_bind (statement_once hd c) fun d hd => yields_then fun _ => yields_pure hd

theorem parse_once {document : String} (h : parse? document = some s) : s.Once :=
  yields_whole (yields_repeatedly (fun _ hd => line_once hd) Nodes.once_nil) h

end RestGateway.Config.Toml

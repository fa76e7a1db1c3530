import Mathlib.Data.List.Induction
import RestGateway.Config.Load
import RestGateway.Proofs.Config.Keys
import RestGateway.Proofs.Config.TomlKeys

/-!
# Sources in layers

A source that assigns documented keys only is a layer: for each key it gives a value or none. Laid over
each other, layers give for each key what the uppermost of them gives that gives anything, whatever
else stands in the same section.
-/

set_option autoImplicit false

namespace RestGateway.Config

/-- What is given for each key. -/
abbrev Giver := (k : Key) → Option k.Value

def Fits (group word : String) (x : Setting) : Prop :=
  ∃ k : Key, k.group = group ∧ k.word = word ∧ (k.read x).isSome = true

instance (group word : String) : DecidablePred (Fits group word) := fun x =>
  inferInstanceAs (Decidable (∃ k : Key, k.group = group ∧ k.word = word ∧ (k.read x).isSome = true))

namespace Setting

def given (s : Setting) : Giver := fun k => (k.setting? s).bind k.read

def IsTableOf (p : String × Setting → Prop) (s : Setting) : Prop :=
  ∃ es, s = .table es ∧ ∀ e ∈ es, p e

instance {p : String × Setting → Prop} [DecidablePred p] : DecidablePred (IsTableOf p)
  | .table es => decidable_of_iff (∀ e ∈ es, p e) (by simp [IsTableOf])
  | .string _ | .signed _ | .unsigned _ | .float _ | .bool _ | .list _ =>
    isFalse (by simp [IsTableOf])

/-- Assigns documented keys only, each with a value of its type. -/
def Documented : Setting → Prop :=
  IsTableOf fun e => IsTableOf (fun f => Fits e.1 f.1 f.2) e.2

instance : DecidablePred Documented := fun s =>
  inferInstanceAs (Decidable (IsTableOf (fun e => IsTableOf (fun f => Fits e.1 f.1 f.2) e.2) s))

def IsGroup (group : String) (s : Setting) : Prop :=
  ∃ inner, s = .table inner ∧ Entries.Lawful (Fits group) inner

/-- Sections of documented keys, none of them twice. -/
def IsLayer (s : Setting) : Prop := ∃ es, s = .table es ∧ Entries.Lawful IsGroup es

theorem Documented.isLayer {s : Setting} (h : s.Documented) (ho : s.Once) : s.IsLayer := by
  obtain ⟨es, rfl, hes⟩ := h
  have hlawful := once_table.mp ho
  refine ⟨es, rfl, hlawful.once, ?_⟩
  intro e he
  obtain ⟨inner, hinner, hfits⟩ := hes e he
  have hsection := once_table.mp (hinner ▸ hlawful.each e he)
  exact ⟨inner, hinner, hsection.once, hfits⟩

variable {s lower upper : Setting} {group word : String}

theorem not_fits_table (es : Entries) : ¬ Fits group word (.table es) := by
  rintro ⟨k, -, -, h⟩
  cases k <;> cases h

theorem overlaid_of_fits (h : Fits group word upper) : overlaid lower upper = upper := by
  cases upper with
  | table es => exact absurd h (not_fits_table es)
  | string | signed | unsigned | float | bool | list => rw [overlaid]

theorem onTop_of_fits (h : Fits group word upper) (below : Option Setting) :
    onTop below upper = upper := by
  cases below with
  | none => rfl
  | some s => exact overlaid_of_fits h

theorem IsGroup.overlaid (hl : IsGroup group lower) (hu : IsGroup group upper) :
    IsGroup group (lower.overlaid upper) := by
  obtain ⟨below, rfl, hbelow⟩ := hl
  obtain ⟨above, rfl, habove⟩ := hu
  refine ⟨overlaidEntries below above, by rw [Setting.overlaid]; rfl, ?_⟩
  refine overlaidEntries_lawful hbelow habove fun word u v _ hv => ?_
  rw [overlaid_of_fits hv]
  exact hv

theorem IsLayer.overlaid (hl : lower.IsLayer) (hu : upper.IsLayer) :
    (lower.overlaid upper).IsLayer := by
  obtain ⟨below, rfl, hbelow⟩ := hl
  obtain ⟨above, rfl, habove⟩ := hu
  refine ⟨overlaidEntries below above, by rw [Setting.overlaid]; rfl, ?_⟩
  exact overlaidEntries_lawful hbelow habove fun _ _ _ hu hv => hu.overlaid hv

theorem setting?_overlaid (k : Key) (hu : upper.IsLayer) :
    k.setting? (lower.overlaid upper) = (k.setting? upper).or (k.setting? lower) := by
  obtain ⟨es, rfl, hes⟩ := hu
  rw [Key.setting?, Key.setting?, Key.setting?, Setting.overlaid, entries, entries,
    lookup_overlaid hes.once]
  cases hgroup : es.lookup k.group with
  | none => simp
  | some above =>
    obtain ⟨inner, rfl, hinner⟩ := hes.lookup hgroup
    cases lower.entries.lookup k.group with
    | none => simp [onTop, entries]
    | some below =>
      simp only [onTop, Option.bind_some]
      rw [Setting.overlaid, entries, entries, lookup_overlaid hinner.once]
      cases hword : inner.lookup k.word with
      | none => simp
      | some x =>
        simp only [Option.some_or, Option.some.injEq]
        exact onTop_of_fits (hinner.lookup hword) _

theorem IsLayer.read (hs : s.IsLayer) {k : Key} {x : Setting} (h : k.setting? s = some x) :
    (k.read x).isSome = true := by
  obtain ⟨es, rfl, hes⟩ := hs
  obtain ⟨section', hgroup, hword⟩ := Option.bind_eq_some_iff.mp h
  obtain ⟨inner, rfl, hinner⟩ := hes.lookup hgroup
  obtain ⟨j, hg, hw, hread⟩ := hinner.lookup hword
  obtain rfl := Key.path_inj hg hw
  exact hread

theorem given_overlaid (hu : upper.IsLayer) (k : Key) :
    (lower.overlaid upper).given k = (upper.given k).or (lower.given k) := by
  rw [given, given, given, setting?_overlaid k hu]
  cases hx : k.setting? upper with
  | none => simp
  | some x =>
    obtain ⟨v, hv⟩ := Option.isSome_iff_exists.mp (hu.read hx)
    simp [hv]

theorem isLayer_empty : (Setting.table []).IsLayer := ⟨[], rfl, .nil⟩

theorem nest_path (k : Key) (x : Setting) :
    x.nest k.path = .table [(k.group, .table [(k.word, x)])] := rfl

theorem isLayer_nest {k : Key} {x : Setting} (h : (k.read x).isSome = true) :
    (x.nest k.path).IsLayer := by
  have hword : Entries.Lawful (Fits k.group) [(k.word, x)] :=
    Entries.Lawful.cons_iff.mpr ⟨by simp, ⟨k, rfl, rfl, h⟩, .nil⟩
  exact ⟨_, rfl, Entries.Lawful.cons_iff.mpr ⟨by simp, ⟨_, rfl, hword⟩, .nil⟩⟩

theorem given_nest_self (k : Key) (x : Setting) : (x.nest k.path).given k = k.read x := by
  simp [given, Key.setting?, nest_path, entries]

theorem given_nest_other {j k : Key} (x : Setting) (h : j ≠ k) :
    (x.nest k.path).given j = none := by
  by_cases hg : j.group = k.group
  · have hw : j.word ≠ k.word := fun hw => h (Key.path_inj hg hw)
    simp [given, Key.setting?, nest_path, entries, hg, List.lookup_cons,
      beq_eq_false_iff_ne.mpr hw]
  · simp [given, Key.setting?, nest_path, entries, List.lookup_cons, beq_eq_false_iff_ne.mpr hg]

end Setting

namespace Environment

/-- The variable that is documented for a key. -/
def variableOf (k : Key) : String :=
  "SG_RESTFUL_" ++ k.group.map Char.toUpper ++ "__" ++ k.word.map Char.toUpper

theorem path_variableOf (k : Key) : path? (variableOf k) = some k.path := by
  cases k <;> decide +kernel

def given (env : Variables) : Giver := fun k =>
  env.reverse.findSome? fun v => if path? v.1 = some k.path then k.read (parse v.2) else none

/-- The variables that set anything set documented keys, each to a value of its type. -/
def Documented (env : Variables) : Prop :=
  ∀ v ∈ env, ∀ path ∈ path? v.1, ∃ k : Key, k.path = path ∧ (k.read (parse v.2)).isSome = true

instance : DecidablePred Documented := fun env =>
  inferInstanceAs (Decidable (∀ v ∈ env, ∀ path ∈ path? v.1,
    ∃ k : Key, k.path = path ∧ (k.read (parse v.2)).isSome = true))

theorem settings_append (env : Variables) (v : String × String) :
    settings (env ++ [v]) =
      match path? v.1 with
      | some path => (settings env).overlaid ((parse v.2).nest path)
      | none => settings env := by
  rw [settings, List.foldl_append]
  rfl

theorem given_append (env : Variables) (v : String × String) (k : Key) :
    given (env ++ [v]) k =
      (if path? v.1 = some k.path then k.read (parse v.2) else none).or (given env k) := by
  rw [given, List.reverse_append]
  cases h : (if path? v.1 = some k.path then k.read (parse v.2) else none) <;>
    simp [h, given]

theorem settings_given {env : Variables} (h : Documented env) :
    (settings env).IsLayer ∧ ∀ k, (settings env).given k = given env k := by
  induction env using List.reverseRecOn with
  | nil => exact ⟨Setting.isLayer_empty, fun k => rfl⟩
  | append_singleton env v ih =>
    obtain ⟨hlayer, hgiven⟩ := ih fun w hw => h w (List.mem_append_left _ hw)
    rw [settings_append]
    cases hp : path? v.1 with
    | none =>
      refine ⟨hlayer, fun k => ?_⟩
      rw [given_append, hp, hgiven]
      rfl
    | some path =>
      obtain ⟨j, rfl, hread⟩ := h v (by simp) path hp
      refine ⟨hlayer.overlaid (Setting.isLayer_nest hread), fun k => ?_⟩
      show ((settings env).overlaid ((parse v.2).nest j.path)).given k = _
      rw [Setting.given_overlaid (Setting.isLayer_nest hread), given_append, hp, hgiven]
      by_cases hk : k = j
      · subst hk
        rw [Setting.given_nest_self, if_pos rfl]
      · have hpath : some j.path ≠ some k.path := by
          intro hs
          obtain ⟨hg, hw⟩ : j.group = k.group ∧ j.word = k.word := by
            simpa [Key.path] using hs
          exact hk (Key.path_inj hg hw).symm
        rw [Setting.given_nest_other _ hk, if_neg hpath]

end Environment

namespace Source

theorem merge_append (sources : List Source) (source : Source) :
    merge (sources ++ [source]) = (merge sources).overlaid source.settings := by
  rw [merge, List.foldl_append]
  rfl

theorem merge_given {sources : List Source} (h : ∀ s ∈ sources, s.settings.IsLayer) (k : Key) :
    (merge sources).given k = sources.reverse.findSome? fun s => s.settings.given k := by
  induction sources using List.reverseRecOn with
  | nil => rfl
  | append_singleton sources source ih =>
    rw [merge_append, Setting.given_overlaid (h source (by simp)), List.reverse_append,
      ih fun s hs => h s (List.mem_append_left _ hs)]
    cases hs : source.settings.given k <;> simp [hs]

theorem file_once {s : Surroundings} {path : String} {source : Source}
    (h : file s path = .ok source) : source.settings.Once := by
  unfold file at h
  split at h
  · cases h
    exact Setting.once_table.mpr .nil
  · next bytes hb =>
    split at h
    · next settings hs =>
      cases h
      obtain ⟨document, -, hdocument⟩ := Option.bind_eq_some_iff.mp hs
      exact Toml.parse_once hdocument
    · cases h

theorem builtin_isLayer : builtin.settings.IsLayer := by
  refine ⟨_, rfl, by decide, ?_⟩
  intro e he
  simp only [List.mem_cons, List.not_mem_nil, or_false] at he
  rcases he with rfl | rfl | rfl
  · refine ⟨_, rfl, by decide, ?_⟩
    intro f hf
    simp only [List.mem_cons, List.not_mem_nil, or_false] at hf
    rcases hf with rfl | rfl | rfl | rfl | rfl | rfl
    · exact ⟨.name, rfl, rfl, rfl⟩
    · exact ⟨.port, rfl, rfl, rfl⟩
    · exact ⟨.logLevel, rfl, rfl, rfl⟩
    · exact ⟨.requestTimeout, rfl, rfl, rfl⟩
    · exact ⟨.corsMode, rfl, rfl, rfl⟩
    · exact ⟨.bodyLimit, rfl, rfl, rfl⟩
  · refine ⟨_, rfl, by decide, ?_⟩
    intro f hf
    simp only [List.mem_cons, List.not_mem_nil, or_false] at hf
    rcases hf with rfl | rfl | rfl | rfl
    · exact ⟨.host, rfl, rfl, rfl⟩
    · exact ⟨.apiPath, rfl, rfl, rfl⟩
    · exact ⟨.callTimeout, rfl, rfl, rfl⟩
    · exact ⟨.cachedClients, rfl, rfl, rfl⟩
  · refine ⟨_, rfl, by decide, ?_⟩
    intro f hf
    rw [List.mem_singleton] at hf
    exact hf ▸ ⟨.formats, rfl, rfl, rfl⟩

theorem builtin_given (k : Key) : builtin.settings.given k = some (Config.builtin.value k) := by
  cases k <;> rfl

end Source

/-- The value that the first of the givers gives that gives any, else the built-in one. -/
def decided (givers : List Giver) (k : Key) : k.Value :=
  (givers.findSome? fun g => g k).getD (builtin.value k)

/-- The givers that loading reads, the uppermost first. -/
def loaded (env : Environment.Variables) (files : List Source) : List Giver :=
  Environment.given env :: files.reverse.map fun f => f.settings.given

theorem findSome?_loaded (env : Environment.Variables) (files : List Source) (k : Key) :
    (loaded env files).findSome? (fun g => g k) =
      (Environment.given env k).or (files.reverse.findSome? fun f => f.settings.given k) := by
  rw [loaded, List.findSome?_cons, List.findSome?_map]
  cases Environment.given env k <;> rfl

/-- Loading gives for each key what its own variable gives, or else the uppermost file that gives
anything, or else the built-in value. -/
theorem load_given {s : Surroundings} {path? : Option String} {files : List Source}
    (hvars : Environment.Documented s.environment)
    (hfiles : (paths path?).mapM (Source.file s) = .ok files)
    (hdocs : ∀ f ∈ files, f.settings.Documented) :
    ∃ c, load s path? = .ok c ∧ ∀ k, c.value k = decided (loaded s.environment files) k := by
  obtain ⟨hlayer, hgiven⟩ := Environment.settings_given hvars
  let sources := [.builtin] ++ files ++ [.environment s.environment]
  have hlayers : ∀ source ∈ sources, source.settings.IsLayer := by
    intro source hsource
    simp only [sources, List.mem_append, List.mem_singleton] at hsource
    rcases hsource with (rfl | hfile) | rfl
    · exact Source.builtin_isLayer
    · obtain ⟨path, -, hpath⟩ := mem_of_mapM hfiles hfile
      exact (hdocs source hfile).isLayer (Source.file_once hpath)
    · exact hlayer
  have horder : sources.reverse = .environment s.environment :: (files.reverse ++ [.builtin]) := by
    simp [sources]
  have hmerged (k : Key) :
      (Source.merge sources).given k = some (decided (loaded s.environment files) k) := by
    have henv : (Source.environment s.environment).settings.given k =
        Environment.given s.environment k := hgiven k
    rw [Source.merge_given hlayers, horder, List.findSome?_cons, henv, List.findSome?_append,
      List.findSome?_singleton, Source.builtin_given, decided, findSome?_loaded]
    cases Environment.given s.environment k with
    | some v => rfl
    | none => cases files.reverse.findSome? fun f => f.settings.given k <;> rfl
  refine ⟨ofValues (decided (loaded s.environment files)), ?_, value_ofValues _⟩
  rw [load, hfiles, ok_bind, ofSources, ofSetting_of_values hmerged]
  rfl

end RestGateway.Config

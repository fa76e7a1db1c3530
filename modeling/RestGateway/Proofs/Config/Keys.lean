import RestGateway.Config.FromSettings
import RestGateway.Proofs.Attempts
import RestGateway.Proofs.Config.Tables

/-!
# The documented keys

A configuration has eleven keys in three sections, each with a type of its own. Settings that give
every key a value of its type are read as the configuration with exactly these values.
-/

set_option autoImplicit false

namespace RestGateway.Config

inductive Key where
  | name
  | port
  | logLevel
  | requestTimeout
  | corsMode
  | bodyLimit
  | host
  | apiPath
  | callTimeout
  | cachedClients
  | formats
  deriving DecidableEq, Repr

namespace Key

def group : Key → String
  | name | port | logLevel | requestTimeout | corsMode | bodyLimit => "service"
  | host | apiPath | callTimeout | cachedClients => "backend"
  | formats => "query"

def word : Key → String
  | name => "name"
  | port => "port"
  | logLevel => "log_level"
  | requestTimeout | callTimeout => "timeout_secs"
  | corsMode => "cors_mode"
  | bodyLimit => "body_limit_mb"
  | host => "host"
  | apiPath => "api_path"
  | cachedClients => "max_cached_connections"
  | formats => "formats"

def path (k : Key) : List String := [k.group, k.word]

theorem path_inj {j k : Key} (hg : j.group = k.group) (hw : j.word = k.word) : j = k := by
  cases j <;> cases k <;> first | rfl | exact absurd hg (by decide) | exact absurd hw (by decide)

def all : List Key :=
  [name, port, logLevel, requestTimeout, corsMode, bodyLimit, host, apiPath, callTimeout,
    cachedClients, formats]

theorem mem_all (k : Key) : k ∈ all := by
  cases k <;> decide

instance {p : Key → Prop} [DecidablePred p] : Decidable (∃ k, p k) :=
  decidable_of_iff (∃ k ∈ all, p k) (by simp [mem_all])

def Value : Key → Type
  | port | requestTimeout | bodyLimit | callTimeout | cachedClients => Nat
  | formats => List String
  | name | logLevel | corsMode | host | apiPath => String

instance : (k : Key) → DecidableEq k.Value
  | port | requestTimeout | bodyLimit | callTimeout | cachedClients =>
    inferInstanceAs (DecidableEq Nat)
  | formats => inferInstanceAs (DecidableEq (List String))
  | name | logLevel | corsMode | host | apiPath => inferInstanceAs (DecidableEq String)

end Key

namespace Setting

def text? : Setting → Option String
  | .string s => some s
  | _ => none

def below? (bound : Nat) : Setting → Option Nat
  | .signed n => if 0 ≤ n ∧ n < bound then some n.toNat else none
  | .unsigned n => if n < bound then some n else none
  | _ => none

def texts? : Setting → Option (List String)
  | .list items => items.mapM text?
  | _ => none

end Setting

namespace Key

def read : (k : Key) → Setting → Option k.Value
  | name | logLevel | corsMode | host | apiPath => Setting.text?
  | port => Setting.below? UInt16.size
  | requestTimeout | bodyLimit | callTimeout | cachedClients => Setting.below? UInt64.size
  | formats => Setting.texts?

/-- The setting that stands under a key. -/
def setting? (k : Key) (s : Setting) : Option Setting :=
  (s.entries.lookup k.group).bind fun group => group.entries.lookup k.word

end Key

def value (c : Config) : (k : Key) → k.Value
  | .name => c.service.name
  | .port => c.service.port
  | .logLevel => c.service.logLevel
  | .requestTimeout => c.service.timeout
  | .corsMode => c.service.corsMode
  | .bodyLimit => c.service.bodyLimit
  | .host => c.backend.host
  | .apiPath => c.backend.apiPath
  | .callTimeout => c.backend.timeout
  | .cachedClients => c.backend.cachedClients
  | .formats => c.formats

namespace Reading

theorem string_of_text {key : List String} {s : Setting} {t : String} (h : s.text? = some t) :
    string key s = .ok t := by
  cases s <;> cases h
  rfl

theorem natural_of_below {bound : Nat} {key : List String} {s : Setting} {n : Nat}
    (unit : String) (h : s.below? bound = some n) : natural bound unit key s = .ok n := by
  cases s with
  | signed m =>
    obtain ⟨hm, hn⟩ := Option.ite_none_right_eq_some.mp h
    cases hn
    exact if_pos hm
  | unsigned m =>
    obtain ⟨hm, hn⟩ := Option.ite_none_right_eq_some.mp h
    cases hn
    exact if_pos hm
  | string | float | bool | list | table => cases h

theorem items_of_texts {key : List String} {ss : List Setting} {ts : List String} (place : Nat)
    (h : ss.mapM Setting.text? = some ts) : items key string place ss = .ok ts := by
  induction ss generalizing place ts with
  | nil =>
    cases h
    rfl
  | cons s ss ih =>
    rw [List.mapM_cons] at h
    obtain ⟨t, ht, h⟩ := Option.bind_eq_some_iff.mp h
    obtain ⟨rest, hrest, h⟩ := Option.bind_eq_some_iff.mp h
    cases h
    rw [items, string_of_text ht, ok_bind, ih (place + 1) hrest]
    rfl

theorem list_of_texts {key : List String} {s : Setting} {ts : List String}
    (h : s.texts? = some ts) : list string key s = .ok ts := by
  cases s with
  | list ss => exact items_of_texts 0 h
  | string | signed | unsigned | float | bool | table => cases h

def ofKey : (k : Key) → Reading k.Value
  | .name | .logLevel | .corsMode | .host | .apiPath => string
  | .port => port
  | .requestTimeout | .callTimeout => seconds
  | .bodyLimit | .cachedClients => size
  | .formats => list string

theorem ofKey_of_read {k : Key} {s : Setting} {v : k.Value} (key : List String)
    (h : k.read s = some v) : ofKey k key s = .ok v := by
  cases k with
  | name | logLevel | corsMode | host | apiPath => exact string_of_text h
  | port => exact natural_of_below "u16" h
  | requestTimeout | callTimeout => exact natural_of_below "u64" h
  | bodyLimit | cachedClients => exact natural_of_below "usize" h
  | formats => exact list_of_texts h

theorem entry?_of_read {k : Key} {es : Entries} {v : k.Value} (key : List String)
    (h : (es.lookup k.word).bind k.read = some v) :
    entry? key es k.word (ofKey k) = .ok (some v) := by
  obtain ⟨s, hl, hs⟩ := Option.bind_eq_some_iff.mp h
  unfold entry?
  rw [hl]
  show (ofKey k _ s).map some = _
  rw [ofKey_of_read _ hs]
  rfl

theorem entry_of_read {k : Key} {es : Entries} {v : k.Value} (key : List String) (absent : k.Value)
    (h : (es.lookup k.word).bind k.read = some v) :
    entry key es k.word (ofKey k) absent = .ok v := by
  rw [entry, entry?_of_read key h]
  rfl

end Reading

/-- The values of all keys put together. -/
def ofValues (v : (k : Key) → k.Value) : Config :=
  { service := ⟨v .name, v .port, v .logLevel, v .requestTimeout, v .corsMode, v .bodyLimit⟩
    backend := ⟨v .host, v .apiPath, v .callTimeout, v .cachedClients⟩
    formats := v .formats }

theorem value_ofValues (v : (k : Key) → k.Value) (k : Key) : (ofValues v).value k = v k := by
  cases k <;> rfl

theorem ofValues_value (c : Config) : ofValues c.value = c := rfl

theorem value_inj {c d : Config} (h : ∀ k, c.value k = d.value k) : c = d := by
  rw [← ofValues_value c, funext h, ofValues_value]

section

variable {es : Entries} {v : (k : Key) → k.Value}

theorem service_of_values (key : List String)
    (h : ∀ k : Key, k.group = "service" → (es.lookup k.word).bind k.read = some (v k)) :
    Reading.service key (.table es) = .ok (ofValues v).service := by
  have hname : Reading.entry? key es "name" .string = .ok (some (v .name)) :=
    Reading.entry?_of_read (k := .name) key (h _ rfl)
  have hport (d : Nat) : Reading.entry key es "port" .port d = .ok (v .port) :=
    Reading.entry_of_read (k := .port) key d (h _ rfl)
  have hlevel (d : String) : Reading.entry key es "log_level" .string d = .ok (v .logLevel) :=
    Reading.entry_of_read (k := .logLevel) key d (h _ rfl)
  have htimeout (d : Nat) :
      Reading.entry key es "timeout_secs" .seconds d = .ok (v .requestTimeout) :=
    Reading.entry_of_read (k := .requestTimeout) key d (h _ rfl)
  have hcors (d : String) : Reading.entry key es "cors_mode" .string d = .ok (v .corsMode) :=
    Reading.entry_of_read (k := .corsMode) key d (h _ rfl)
  have hlimit (d : Nat) : Reading.entry key es "body_limit_mb" .size d = .ok (v .bodyLimit) :=
    Reading.entry_of_read (k := .bodyLimit) key d (h _ rfl)
  simp only [Reading.service, Reading.serviceOfEntries, hname, hport, hlevel, htimeout, hcors,
    hlimit, ok_bind]
  rfl

theorem backend_of_values (key : List String)
    (h : ∀ k : Key, k.group = "backend" → (es.lookup k.word).bind k.read = some (v k)) :
    Reading.backend key (.table es) = .ok (ofValues v).backend := by
  have hhost (d : String) : Reading.entry key es "host" .string d = .ok (v .host) :=
    Reading.entry_of_read (k := .host) key d (h _ rfl)
  have hpath (d : String) : Reading.entry key es "api_path" .string d = .ok (v .apiPath) :=
    Reading.entry_of_read (k := .apiPath) key d (h _ rfl)
  have htimeout (d : Nat) :
      Reading.entry key es "timeout_secs" .seconds d = .ok (v .callTimeout) :=
    Reading.entry_of_read (k := .callTimeout) key d (h _ rfl)
  have hclients (d : Nat) :
      Reading.entry key es "max_cached_connections" .size d = .ok (v .cachedClients) :=
    Reading.entry_of_read (k := .cachedClients) key d (h _ rfl)
  simp only [Reading.backend, Reading.backendOfEntries, hhost, hpath, htimeout, hclients]
  rfl

theorem formats_of_values (key : List String)
    (h : ∀ k : Key, k.group = "query" → (es.lookup k.word).bind k.read = some (v k)) :
    Reading.formats key (.table es) = .ok (ofValues v).formats :=
  Reading.entry_of_read (k := .formats) key _ (h _ rfl)

end

theorem group_table {s : Setting} {k : Key} {v : k.Value} (h : (k.setting? s).bind k.read = some v) :
    ∃ es, s.entries.lookup k.group = some (.table es) := by
  obtain ⟨x, hx, -⟩ := Option.bind_eq_some_iff.mp h
  obtain ⟨group, hgroup, hword⟩ := Option.bind_eq_some_iff.mp hx
  cases group with
  | table es => exact ⟨es, hgroup⟩
  | string | signed | unsigned | float | bool | list => cases hword

theorem entry_of_lookup {α : Type} {es : Entries} {group : String} {r : Reading α} {s : Setting}
    {a : α} (key : List String) (absent : α) (hl : es.lookup group = some s)
    (hr : ∀ key, r key s = .ok a) : Reading.entry key es group r absent = .ok a := by
  rw [Reading.entry, Reading.entry?, hl]
  show (r _ s).map some >>= _ = _
  rw [hr]
  rfl

theorem ofSetting_of_values {s : Setting} {v : (k : Key) → k.Value}
    (h : ∀ k : Key, (k.setting? s).bind k.read = some (v k)) : ofSetting s = .ok (ofValues v) := by
  have inGroup {group : String} {es : Entries} (hg : s.entries.lookup group = some (.table es))
      (k : Key) (hk : k.group = group) : (es.lookup k.word).bind k.read = some (v k) := by
    have hv := h k
    rw [Key.setting?, hk, hg] at hv
    exact hv
  obtain ⟨service, hservice⟩ := group_table (h .name)
  obtain ⟨backend, hbackend⟩ := group_table (h .host)
  obtain ⟨query, hquery⟩ := group_table (h .formats)
  have readService (d : Service) :=
    entry_of_lookup [] d hservice fun key => service_of_values key (inGroup hservice)
  have readBackend (d : Backend) :=
    entry_of_lookup [] d hbackend fun key => backend_of_values key (inGroup hbackend)
  have readFormats (d : List String) :=
    entry_of_lookup [] d hquery fun key => formats_of_values key (inGroup hquery)
  simp only [Key.group] at readService readBackend readFormats
  rw [ofSetting, readBackend, readFormats, readService]
  rfl

end RestGateway.Config

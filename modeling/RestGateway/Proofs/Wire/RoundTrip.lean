import RestGateway.Proofs.Json.Records
import RestGateway.Proofs.Json.Results
import RestGateway.Proofs.Wire.Values
import RestGateway.VersionReport

/-!
# Decoders undo encoders

Every type that is both written and read is given back by its decoder from its text. What a decoder
gives, from whatever text, is a value of this kind, so writing it, reading it and writing it again
changes no text.
-/

set_option autoImplicit false

namespace RestGateway
open Json Json.Reader

theorem Operator.reads (o : Operator) (depth : Nat) : Reads (decoder depth) o.toJson o := by
  cases o <;> exact reads_choice _ _ rfl

theorem Paging.reads (p : Paging) (hp : p.isProper = true) {depth : Nat}
    (hn : p.toJson.nesting ≤ depth) : Reads (decoder depth) p.toJson p := by
  obtain ⟨inner, rfl, -⟩ := object_nesting hn
  simp only [isProper, Word.holds, Bool.and_eq_true, decide_eq_true_eq] at hp
  obtain ⟨⟨hl, hg⟩, hl', hg'⟩ := hp
  apply record_reads (by simp [required])
  exact .given (reads_map _ (reads_word inner hl hg))
    (.given (reads_map _ (reads_word inner hl' hg')) (.nil _))

theorem Paging.yields (depth : Nat) : Yields (decoder depth) fun p => p.isProper = true := by
  have hw (inner : Nat) : Yields (Decoder.word inner) fun n => Word.holds n = true := by
    intro bs n rest h
    simpa [Word.holds] using yields_integerIn _ _ _ bs n rest h
  refine yields_decoder (by decide) (fun inner => keeps_cons (hw inner) ?_
    (keeps_cons (hw inner) ?_ keeps_nil)) depth
  · intro n p hn hp
    simp_all [isProper]
  · intro n p hn hp
    simp_all [isProper]

theorem Summary.reads (s : Summary) {depth : Nat} (hn : s.toJson.nesting ≤ depth) :
    Reads (decoder depth) s.toJson s := by
  obtain ⟨inner, rfl, -⟩ := object_nesting hn
  apply record_reads (by simp [required])
  exact .given (reads_map _ (reads_text _ _)) (.given (reads_map _ (reads_text _ _)) (.nil _))

theorem Grouping.reads (g : Grouping) {depth : Nat} (hn : g.toJson.nesting ≤ depth) :
    Reads (decoder depth) g.toJson g := by
  obtain ⟨inner, rfl, -⟩ := object_nesting hn
  apply record_reads (by simp [required, defaulted])
  exact .given (reads_map _ (reads_text _ _)) (.given (reads_map _ (reads_text _ _))
    (.given (reads_map _ (reads_text _ _)) (.nil _)))

theorem VersionReport.reads (r : VersionReport) {depth : Nat} (hn : r.toJson.nesting ≤ depth) :
    Reads (decoder depth) r.toJson r := by
  obtain ⟨inner, rfl, -⟩ := object_nesting hn
  apply record_reads (by simp [required])
  exact .given (reads_map _ (reads_text _ _)) (.given (reads_map _ (reads_text _ _)) (.nil _))

theorem ErrorBody.reads (b : ErrorBody) (hp : b.isProper = true) {depth : Nat}
    (hn : b.toJson.nesting ≤ depth) : Reads (decoder depth) b.toJson b := by
  obtain ⟨inner, rfl, -⟩ := object_nesting hn
  have hs : b.status < UInt16.size := by simpa [isProper] using hp
  have hstatus := reads_natural "u16" inner hs (by decide)
  obtain ⟨error, code, status⟩ := b
  apply record_reads (by simp [required, Reader.optional])
  apply Written.given (reads_map _ (reads_text _ _))
  cases code with
  | none => exact .omitted rfl (.given (reads_map _ hstatus) (.nil _))
  | some c =>
    exact .given (reads_map _ (reads_some (starts_string c) (reads_text _ _)))
      (.given (reads_map _ hstatus) (.nil _))

theorem ErrorBody.yields (depth : Nat) : Yields (decoder depth) fun b => b.isProper = true := by
  have hs (inner : Nat) : Yields (Decoder.natural UInt16.size "u16" inner) (· < UInt16.size) := by
    refine yields_map (yields_integerIn _ _ _) fun n hn => ?_
    have : UInt16.size = 65536 := rfl
    omega
  refine yields_decoder (by decide) (fun inner => keeps_cons (yields_any _) ?_
    (keeps_cons (yields_any _) ?_ (keeps_cons (hs inner) ?_ keeps_nil))) depth
  · exact fun _ _ _ h => h
  · exact fun _ _ _ h => h
  · intro n b hn hb
    simpa [isProper] using hn

theorem Condition.reads (c : Condition) (hp : c.isProper = true)
    (hf : c.toJson.isFloatFree = true) {depth : Nat} (hn : c.toJson.nesting ≤ depth) :
    Reads (decoder depth) c.toJson c := by
  obtain ⟨inner, rfl, hm⟩ := object_nesting hn
  have hv : Reads (Decoder.list .value inner) (.list c.values) c.values :=
    reads_values (by simpa [isProper] using hp) (by simpa [toJson] using hf)
      (hm ("values", .list c.values) (by simp))
  apply record_reads (by simp [required])
  exact .given (reads_map _ (reads_text _ _)) (.given (reads_map _ (reads_text _ _))
    (.given (reads_map _ hv) (.nil _)))

theorem Condition.yields (depth : Nat) : Yields (decoder depth) fun c => c.isProper = true := by
  have hv (inner : Nat) := yields_list yields_value inner
  refine yields_decoder (by decide) (fun inner => keeps_cons (yields_any _) ?_
    (keeps_cons (yields_any _) ?_ (keeps_cons (hv inner) ?_ keeps_nil))) depth
  · exact fun _ _ _ h => h
  · exact fun _ _ _ h => h
  · intro vs c hvs hc
    simpa [isProper] using hvs

theorem Filter.reads (f : Filter) (hp : f.isProper = true) (hf : f.toJson.isFloatFree = true)
    {depth : Nat} (hn : f.toJson.nesting ≤ depth) : Reads (decoder depth) f.toJson f := by
  obtain ⟨inner, rfl, hm⟩ := object_nesting hn
  have hc : Reads (Decoder.list Condition.decoder inner) (.list (f.conditions.map Condition.toJson))
      f.conditions := by
    have hn := hm ("conditions", .list (f.conditions.map Condition.toJson)) (by simp)
    have hp : ∀ c ∈ f.conditions, c.isProper = true := by simpa [isProper] using hp
    have hf : ∀ c ∈ f.conditions, c.toJson.isFloatFree = true := by
      simpa [toJson, Operator.toJson] using hf
    exact reads_listWith hn (fun c _ => starts_object _) fun c hc inner _ hn =>
      c.reads (hp c hc) (hf c hc) hn
  apply record_reads (by simp [required])
  exact .given (reads_map _ (f.operator.reads inner)) (.given (reads_map _ hc) (.nil _))

theorem Filter.yields (depth : Nat) : Yields (decoder depth) fun f => f.isProper = true := by
  have hc (inner : Nat) := yields_list Condition.yields inner
  refine yields_decoder (by decide) (fun inner => keeps_cons (yields_any _) ?_
    (keeps_cons (hc inner) ?_ keeps_nil)) depth
  · exact fun _ _ _ h => h
  · intro cs f hcs hf
    simpa [isProper] using hcs

theorem EntityPage.reads (p : EntityPage) (hp : p.isProper = true)
    (hf : p.toJson.isFloatFree = true) {depth : Nat} (hn : p.toJson.nesting ≤ depth) :
    Reads (decoder depth) p.toJson p := by
  obtain ⟨inner, rfl, hm⟩ := object_nesting hn
  obtain ⟨entities, info⟩ := p
  simp only [isProper, Bool.and_eq_true, List.all_eq_true] at hp
  have he : Reads (Decoder.list .members inner) (.list (entities.map .object)) entities := by
    have hn := hm ("entities", .list (entities.map .object)) (by simp)
    have hf : (Json.list (entities.map .object)).isFloatFree = true :=
      (isFloatFree_object _).mp hf ("entities", _) (by simp)
    exact reads_mirrored mirrors_members hp.1 hf hn
  apply record_reads (by simp [defaulted])
  apply Written.given (reads_map _ he)
  cases info with
  | none => exact .omitted rfl (.nil _)
  | some info =>
    have hn := hm ("paging_info", .object info) (by simp)
    have hf : (Json.object info).isFloatFree = true :=
      (isFloatFree_object _).mp hf ("paging_info", _) (by simp)
    have hi := reads_members (by simpa using hp.2) hf hn
    exact .given (reads_map _ (reads_some (starts_object info) hi)) (.nil _)

theorem EntityPage.yields (depth : Nat) : Yields (decoder depth) fun p => p.isProper = true := by
  have he (inner : Nat) := yields_list yields_members inner
  have hi (inner : Nat) := yields_option (yields_members inner)
  refine yields_decoder (by decide) (fun inner => keeps_cons (he inner) ?_
    (keeps_cons (hi inner) ?_ keeps_nil)) depth
  · intro es p hes hp
    simp_all [isProper]
  · intro info p hinfo hp
    cases info <;> simp_all [isProper]

namespace SummaryGroup

/-- One equation for all depths: groups inside a group are a list of what its own decoder gives. -/
theorem decoder_succ (depth : Nat) : decoder (depth + 1) =
    record "SummaryGroup" blank (some (members (Decoder.inside decoder depth) depth)) := by
  cases depth <;> rfl

theorem listToJson_eq (groups : List SummaryGroup) : listToJson groups = groups.map toJson := by
  induction groups with
  | nil => rfl
  | cons g gs ih => rw [listToJson, ih, List.map_cons]

theorem toJson_eq (g : SummaryGroup) : g.toJson = .object ([("group_value", g.value),
    ("group_name", g.name), ("summaries", .object g.summaries)] ++
      if g.groups = [] then [] else [("groups", .list (g.groups.map toJson))]) := by
  obtain ⟨value, name, summaries, groups⟩ := g
  cases groups with
  | nil => rfl
  | cons g gs => simp [toJson, listToJson_eq]

theorem isProper_iff (g : SummaryGroup) : g.isProper = true ↔ g.value.isProper = true ∧
    g.name.isProper = true ∧ (Json.object g.summaries).isProper = true ∧
      ∀ h ∈ g.groups, h.isProper = true := by
  obtain ⟨value, name, summaries, groups⟩ := g
  simp [isProper, areProper_iff, and_assoc]

theorem starts_toJson (g : SummaryGroup) : Starts g.toJson := by
  rw [toJson_eq]
  exact starts_object _

theorem reads (g : SummaryGroup) (hp : g.isProper = true) (hf : g.toJson.isFloatFree = true)
    {depth : Nat} (hn : g.toJson.nesting ≤ depth) : Reads (decoder depth) g.toJson g := by
  induction depth using Nat.strong_induction_on generalizing g with
  | _ depth ih =>
    obtain ⟨hvalue, hname, hsummaries, hgroups⟩ := (isProper_iff g).mp hp
    rw [toJson_eq] at hf hn ⊢
    obtain ⟨inner, rfl, hm⟩ := object_nesting hn
    rw [isFloatFree_object] at hf
    rw [decoder_succ]
    apply record_reads (by simp [members, required, defaulted])
    apply Written.given (reads_map _ (reads_value hvalue (hf ("group_value", _) (by simp))
      (hm ("group_value", _) (by simp))))
    apply Written.given (reads_map _ (reads_value hname (hf ("group_name", _) (by simp))
      (hm ("group_name", _) (by simp))))
    apply Written.given (reads_map _ (reads_members hsummaries (hf ("summaries", _) (by simp))
      (hm ("summaries", _) (by simp))))
    obtain ⟨value, name, summaries, groups⟩ := g
    by_cases he : groups = []
    · subst he
      exact .omitted rfl (.nil _)
    · simp only [if_neg he] at hf hm ⊢
      have hf := (isFloatFree_list _).mp (hf ("groups", .list (groups.map toJson)) (by simp))
      have hg := reads_listWith (hm ("groups", .list (groups.map toJson)) (by simp))
        (fun g _ => starts_toJson g) fun g hg d hd hn =>
          ih d (by omega) g (hgroups g hg) (hf _ (List.mem_map_of_mem hg)) hn
      exact .given (reads_map _ hg) (.nil _)

theorem yields (depth : Nat) : Yields (decoder depth) fun g => g.isProper = true := by
  induction depth using Nat.strong_induction_on with
  | _ depth ih =>
    cases depth with
    | zero =>
      refine yields_record (by decide) ?_
      rintro fields ⟨⟩
    | succ depth =>
      have hg : Yields (listWith (Decoder.inside decoder depth)) fun gs =>
          ∀ g ∈ gs, g.isProper = true := by
        apply yields_listWith
        cases depth with
        | zero => rintro r ⟨⟩
        | succ depth =>
          rintro r ⟨⟩
          exact ih depth (by omega)
      rw [decoder_succ]
      refine yields_record (by decide) ?_
      rintro fields ⟨⟩
      refine keeps_cons (yields_value depth) ?_ (keeps_cons (yields_value depth) ?_
        (keeps_cons (yields_members depth) ?_ (keeps_cons hg ?_ keeps_nil)))
      · intro v g hv hg
        obtain ⟨-, hname, hsummaries, hgroups⟩ := (isProper_iff g).mp hg
        exact (isProper_iff _).mpr ⟨hv, hname, hsummaries, hgroups⟩
      · intro v g hv hg
        obtain ⟨hvalue, -, hsummaries, hgroups⟩ := (isProper_iff g).mp hg
        exact (isProper_iff _).mpr ⟨hvalue, hv, hsummaries, hgroups⟩
      · intro ms g hms hg
        obtain ⟨hvalue, hname, -, hgroups⟩ := (isProper_iff g).mp hg
        exact (isProper_iff _).mpr ⟨hvalue, hname, hms, hgroups⟩
      · intro gs g hgs hg
        obtain ⟨hvalue, hname, hsummaries, -⟩ := (isProper_iff g).mp hg
        exact (isProper_iff _).mpr ⟨hvalue, hname, hsummaries, hgs⟩

end SummaryGroup

theorem SummaryResults.reads (r : SummaryResults) (hp : r.isProper = true)
    (hf : r.toJson.isFloatFree = true) {depth : Nat} (hn : r.toJson.nesting ≤ depth) :
    Reads (decoder depth) r.toJson r := by
  obtain ⟨inner, rfl, hm⟩ := object_nesting hn
  simp only [isProper, Bool.and_eq_true, List.all_eq_true] at hp
  have hf := (isFloatFree_object _).mp hf
  have hs := reads_members hp.1 (hf ("summaries", _) (by simp)) (hm ("summaries", _) (by simp))
  have hgf := (isFloatFree_list _).mp (hf ("groups", .list (r.groups.map SummaryGroup.toJson)) (by simp))
  have hg := reads_listWith (hm ("groups", .list (r.groups.map SummaryGroup.toJson)) (by simp))
    (fun g _ => g.starts_toJson) fun g hg d _ hn =>
      g.reads (hp.2 g hg) (hgf _ (List.mem_map_of_mem hg)) hn
  apply record_reads (by simp [defaulted])
  exact .given (reads_map _ hs) (.given (reads_map _ hg) (.nil _))

theorem SummaryResults.yields (depth : Nat) :
    Yields (decoder depth) fun r => r.isProper = true := by
  have hg (inner : Nat) := yields_list SummaryGroup.yields inner
  refine yields_decoder (by decide) (fun inner => keeps_cons (yields_members inner) ?_
    (keeps_cons (hg inner) ?_ keeps_nil)) depth
  all_goals
    intro a r ha hr
    simp_all [isProper]

/-- The types that are both written and read. -/
inductive WireType where
  | filter
  | condition
  | operator
  | paging
  | summary
  | grouping
  | entityPage
  | summaryGroup
  | summaryResults
  | versionReport
  | errorBody
  deriving DecidableEq, Repr

namespace WireType

def Value : WireType → Type
  | filter => Filter
  | condition => Condition
  | operator => Operator
  | paging => Paging
  | summary => Summary
  | grouping => Grouping
  | entityPage => EntityPage
  | summaryGroup => SummaryGroup
  | summaryResults => SummaryResults
  | versionReport => VersionReport
  | errorBody => ErrorBody

def toJson : (t : WireType) → t.Value → Json
  | filter => Filter.toJson
  | condition => Condition.toJson
  | operator => Operator.toJson
  | paging => Paging.toJson
  | summary => Summary.toJson
  | grouping => Grouping.toJson
  | entityPage => EntityPage.toJson
  | summaryGroup => SummaryGroup.toJson
  | summaryResults => SummaryResults.toJson
  | versionReport => VersionReport.toJson
  | errorBody => ErrorBody.toJson

def decoder : (t : WireType) → Decoder t.Value
  | filter => Filter.decoder
  | condition => Condition.decoder
  | operator => Operator.decoder
  | paging => Paging.decoder
  | summary => Summary.decoder
  | grouping => Grouping.decoder
  | entityPage => EntityPage.decoder
  | summaryGroup => SummaryGroup.decoder
  | summaryResults => SummaryResults.decoder
  | versionReport => VersionReport.decoder
  | errorBody => ErrorBody.decoder

def isProper : (t : WireType) → t.Value → Bool
  | filter => Filter.isProper
  | condition => Condition.isProper
  | paging => Paging.isProper
  | entityPage => EntityPage.isProper
  | summaryGroup => SummaryGroup.isProper
  | summaryResults => SummaryResults.isProper
  | errorBody => ErrorBody.isProper
  | operator | summary | grouping | versionReport => fun _ => true

variable (t : WireType)

theorem reads (v : t.Value) (hp : t.isProper v = true) (hf : (t.toJson v).isFloatFree = true)
    {depth : Nat} (hn : (t.toJson v).nesting ≤ depth) :
    Reads (t.decoder depth) (t.toJson v) v := by
  cases t with
  | filter => exact Filter.reads v hp hf hn
  | condition => exact Condition.reads v hp hf hn
  | operator => exact Operator.reads v depth
  | paging => exact Paging.reads v hp hn
  | summary => exact Summary.reads v hn
  | grouping => exact Grouping.reads v hn
  | entityPage => exact EntityPage.reads v hp hf hn
  | summaryGroup => exact SummaryGroup.reads v hp hf hn
  | summaryResults => exact SummaryResults.reads v hp hf hn
  | versionReport => exact VersionReport.reads v hn
  | errorBody => exact ErrorBody.reads v hp hn

theorem yields (depth : Nat) : Yields (t.decoder depth) fun v => t.isProper v = true := by
  cases t with
  | filter => exact Filter.yields depth
  | condition => exact Condition.yields depth
  | paging => exact Paging.yields depth
  | entityPage => exact EntityPage.yields depth
  | summaryGroup => exact SummaryGroup.yields depth
  | summaryResults => exact SummaryResults.yields depth
  | errorBody => exact ErrorBody.yields depth
  | operator | summary | grouping | versionReport => exact fun _ _ _ _ => rfl

/-- The values whose text is read again: no floats in what is filled in freely, and no more levels
than a decoder opens. -/
def Writable (v : t.Value) : Prop :=
  (t.toJson v).isFloatFree = true ∧ (t.toJson v).nesting ≤ Decoder.levels

/-- Every value is decoded from its text, and what was decoded from any text at all is written,
decoded and written again with the same text. -/
theorem decode_written :
    (∀ v, t.isProper v = true → t.Writable v →
      t.decoder.decode (Utf8.bytes (t.toJson v).text) = .ok v) ∧
    ∀ input v, t.decoder.decode input = .ok v → t.Writable v →
      ∃ w, t.decoder.decode (Utf8.bytes (t.toJson v).text) = .ok w ∧
        (t.toJson w).text = (t.toJson v).text := by
  have hw (v : t.Value) (hp : t.isProper v = true) (h : t.Writable v) :
      t.decoder.decode (Utf8.bytes (t.toJson v).text) = .ok v :=
    decode_reads (t.reads v hp h.1 h.2)
  constructor
  · exact hw
  · intro input v hd h
    obtain ⟨rest, hr, -⟩ := decode_ok.mp hd
    exact ⟨v, hw v (t.yields _ _ _ _ hr) h, rfl⟩

def nested : SummaryGroup :=
  ⟨.object [("id", .number (.int 7))], .string "a\"b", [],
    [⟨.null, .list [.bool true], [("count", .number (.int 3))], []⟩]⟩

theorem decode_written_nested :
    (summaryGroup.isProper nested = true ∧ summaryGroup.Writable nested ∧
      SummaryGroup.decoder.decode (Utf8.bytes nested.toJson.text) = .ok nested) ∧
    Paging.decoder.decode (Utf8.bytes " [2, 50]") = .ok ⟨2, 50⟩ ∧
      ∃ p, Paging.decoder.decode (Utf8.bytes (Paging.toJson ⟨2, 50⟩).text) = .ok p ∧
        p.toJson.text = (Paging.toJson ⟨2, 50⟩).text := by
  have hp : summaryGroup.isProper nested = true := by decide
  have hw : summaryGroup.Writable nested := ⟨by decide, by decide⟩
  have hd : Paging.decoder.decode (Utf8.bytes " [2, 50]") = .ok ⟨2, 50⟩ := by decide +kernel
  exact ⟨⟨hp, hw, (decode_written summaryGroup).1 nested hp hw⟩, hd,
    (decode_written paging).2 _ _ hd ⟨by decide, by decide⟩⟩

end WireType

end RestGateway

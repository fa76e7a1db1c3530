import Mathlib.Tactic.Common
import RestGateway.Proofs.Backend.Exceptions

/-!
# Which rule decides

The first rule that applies to a message decides alone. So a list of rules may be cut anywhere: its
front decides where it has a rule that applies, and otherwise what follows the front decides. An
exception passes for success exactly where a rule that decides says so, and whether a classifier has
such a rule is seen from the needles of its own rules.
-/

set_option autoImplicit false

namespace RestGateway

/-- The message holds the needle of the rule in one piece, letters in the same case. -/
def Rule.Applies (r : Rule) (message : String) : Prop := r.needle.toList <:+: message.toList

theorem Rule.matches_iff {r : Rule} {message : String} :
    r.matches message = true ↔ r.Applies message := occurs_iff

theorem Rule.applies_own (r : Rule) : r.Applies r.needle := List.infix_rfl

theorem applies_or_none (rules : List Rule) (message : String) :
    (∃ r ∈ rules, r.Applies message) ∨ ∀ r ∈ rules, ¬r.Applies message := by
  rw [or_iff_not_imp_left]
  intro h r hr happlies
  exact h ⟨r, hr, happlies⟩

namespace Classifier

/-- Made of these rules in this order, at once or with some of them appended one by one. -/
inductive Built : List Rule → Classifier → Prop where
  | given (rules : List Rule) : Built rules ⟨rules⟩
  | appended {rules : List Rule} {c : Classifier} (r : Rule) :
      Built rules c → Built (rules ++ [r]) (c.append r)

/-- The first of the rules that apply to the message. -/
def Decides (c : Classifier) (message : String) (r : Rule) : Prop :=
  ∃ before after, c.rules = before ++ r :: after ∧ r.Applies message ∧
    ∀ b ∈ before, ¬b.Applies message

def NeverSucceeds (c : Classifier) : Prop := ∀ message, c.classifyMessage message ≠ .success

variable {R S rules : List Rule} {c d : Classifier} {r : Rule} {message : String}

theorem Built.eq (h : Built rules c) : c = ⟨rules⟩ := by
  induction h with
  | given => rfl
  | appended r _ ih => rw [ih, append]

theorem find_decides :
    (c.rules.find? fun r => r.matches message) = some r ↔ c.Decides message r := by
  rw [List.find?_eq_some_iff_append, Rule.matches_iff]
  simp only [Bool.not_eq_true', Bool.eq_false_iff, ne_eq, Rule.matches_iff]
  constructor
  · rintro ⟨happlies, before, after, hrules, hbefore⟩
    exact ⟨before, after, hrules, happlies, hbefore⟩
  · rintro ⟨before, after, hrules, happlies, hbefore⟩
    exact ⟨happlies, before, after, hrules, hbefore⟩

theorem find_undecided : (c.rules.find? fun r => r.matches message) = none ↔
    ∀ r ∈ c.rules, ¬r.Applies message := by
  simp only [List.find?_eq_none, Rule.matches_iff]

theorem Decides.classifyMessage (h : c.Decides message r) :
    c.classifyMessage message = r.category := by
  rw [Classifier.classifyMessage, find_decides.mpr h]

theorem classifyMessage_undecided (h : ∀ r ∈ c.rules, ¬r.Applies message) :
    c.classifyMessage message = .badRequest := by
  rw [classifyMessage, find_undecided.mpr h]

theorem decides_exists (h : ∃ r ∈ c.rules, r.Applies message) : ∃ r, c.Decides message r := by
  cases hf : c.rules.find? fun r => r.matches message with
  | some r => exact ⟨r, find_decides.mp hf⟩
  | none =>
    obtain ⟨r, hr, happlies⟩ := h
    exact absurd happlies (find_undecided.mp hf r hr)

theorem Decides.extended (h : Decides ⟨R⟩ message r) : Decides ⟨R ++ S⟩ message r := by
  obtain ⟨before, after, rfl, happlies, hbefore⟩ := h
  exact ⟨before, after ++ S, by simp, happlies, hbefore⟩

theorem Decides.preceded (h : Decides ⟨S⟩ message r) (hR : ∀ r ∈ R, ¬r.Applies message) :
    Decides ⟨R ++ S⟩ message r := by
  obtain ⟨before, after, rfl, happlies, hbefore⟩ := h
  exact ⟨R ++ before, after, by simp, happlies, List.forall_mem_append.mpr ⟨hR, hbefore⟩⟩

theorem classifyMessage_front (h : ∃ r ∈ R, r.Applies message) :
    (mk (R ++ S)).classifyMessage message = (mk R).classifyMessage message := by
  obtain ⟨r, hr⟩ := decides_exists (c := ⟨R⟩) h
  rw [hr.extended.classifyMessage, hr.classifyMessage]

theorem classifyMessage_back (h : ∀ r ∈ R, ¬r.Applies message) :
    (mk (R ++ S)).classifyMessage message = (mk S).classifyMessage message := by
  rcases applies_or_none S message with hS | hS
  · obtain ⟨r, hr⟩ := decides_exists (c := ⟨S⟩) hS
    rw [(hr.preceded h).classifyMessage, hr.classifyMessage]
  · rw [classifyMessage_undecided (c := ⟨S⟩) hS,
      classifyMessage_undecided (List.forall_mem_append.mpr ⟨h, hS⟩)]

theorem classifyMessage_dropped (h : ¬r.Applies message) :
    (mk (R ++ r :: S)).classifyMessage message = (mk (R ++ S)).classifyMessage message := by
  rcases applies_or_none R message with hR | hR
  · rw [classifyMessage_front hR, classifyMessage_front hR]
  · have hr : ∀ b ∈ [r], ¬b.Applies message := List.forall_mem_singleton.mpr h
    rw [classifyMessage_back hR, classifyMessage_back hR]
    exact classifyMessage_back hr

theorem classifyMessage_swapped {a b : Rule} (h : ¬(a.Applies message ∧ b.Applies message)) :
    (mk (R ++ a :: b :: S)).classifyMessage message =
      (mk (R ++ b :: a :: S)).classifyMessage message := by
  have hsecond {r s : Rule} (hs : ¬s.Applies message) :
      (mk (R ++ r :: s :: S)).classifyMessage message =
        (mk (R ++ r :: S)).classifyMessage message := by
    have hdropped := classifyMessage_dropped (R := R ++ [r]) (S := S) hs
    simpa only [List.append_assoc, List.singleton_append] using hdropped
  rcases not_and_or.mp h with ha | hb
  · rw [classifyMessage_dropped ha, hsecond ha]
  · rw [classifyMessage_dropped hb, hsecond hb]

theorem classify_congr (h : c.classifyMessage message = d.classifyMessage message)
    (exception : Bool) : c.classify exception message = d.classify exception message := by
  rw [classify, classify, h]

/-- Rules followed by further rules classify like the former where one of them applies and like the
latter elsewhere, however the lists were built; with no rules an exception is a bad request, and one
rule that applies gives its own category. So a rule that is appended changes nothing for messages
that were decided before, and two neighbours may change places but for messages that hold both
needles. -/
theorem classify_composed (R S : List Rule) (message : String) (exception : Bool) :
    (∀ c d e, Built (R ++ S) c → Built R d → Built S e →
      ((∃ r ∈ R, r.Applies message) →
        c.classify exception message = d.classify exception message) ∧
      ((∀ r ∈ R, ¬r.Applies message) →
        c.classify exception message = e.classify exception message)) ∧
    (∀ c, Built [] c → c.classify true message = .badRequest) ∧
    (∀ r c, Built [r] c → r.Applies message → c.classify true message = r.category) ∧
    (∀ c : Classifier, c.classify false message = .success) ∧
    (∀ r c, Built R c → (∃ b ∈ R, b.Applies message) →
      (c.append r).classify exception message = c.classify exception message) ∧
    (∀ a b c d, Built (R ++ a :: b :: S) c → Built (R ++ b :: a :: S) d →
      c.classify exception message ≠ d.classify exception message →
      a.Applies message ∧ b.Applies message) ∧
    ∀ r : Rule, r.needle = "" → r.Applies message := by
  refine ⟨?lists, ?none, ?one, fun _ => rfl, ?appended, ?swapped, ?empty⟩
  case lists =>
    intro c d e hc hd he
    rw [hc.eq, hd.eq, he.eq]
    exact ⟨fun h => classify_congr (classifyMessage_front h) exception,
      fun h => classify_congr (classifyMessage_back h) exception⟩
  case none =>
    intro c hc
    rw [hc.eq]
    rfl
  case one =>
    intro r c hc happlies
    have hr : Decides ⟨[r]⟩ message r := ⟨[], [], rfl, happlies, List.forall_mem_nil _⟩
    rw [hc.eq]
    exact hr.classifyMessage
  case appended =>
    intro r c hc h
    rw [hc.eq]
    exact classify_congr (classifyMessage_front h) exception
  case swapped =>
    intro a b c d hc hd hne
    rw [hc.eq, hd.eq] at hne
    by_contra h
    exact hne (classify_congr (classifyMessage_swapped h) exception)
  case empty =>
    intro r hr
    rw [Rule.Applies, hr]
    exact List.nil_infix

def overlapping : String := "Permission to be unique does not exist"

theorem classify_composed_update :
    ((∃ r ∈ [unique, permission], r.Applies overlapping) ∧
      (forCreate.append missing).classify true overlapping =
        forCreate.classify true overlapping) ∧
    ((∀ r ∈ [unique, permission], ¬r.Applies "it does not exist") ∧
      (forCreate.append missing).classify true "it does not exist" =
        (mk [missing]).classify true "it does not exist") ∧
    (forCreate.classify true overlapping ≠ (mk [permission, unique]).classify true overlapping ∧
      unique.Applies overlapping ∧ permission.Applies overlapping) := by
  have hbuilt : Built ([unique, permission] ++ [missing]) (forCreate.append missing) :=
    .appended missing (.given _)
  have hfirst : ∃ r ∈ [unique, permission], r.Applies overlapping :=
    ⟨unique, List.mem_cons_self, Rule.matches_iff.mp (by decide)⟩
  have hnone : ∀ r ∈ [unique, permission], ¬r.Applies "it does not exist" := by
    intro r hr
    rw [← Rule.matches_iff]
    revert r
    decide
  have hdiffer : forCreate.classify true overlapping ≠
      (mk [permission, unique]).classify true overlapping := by
    decide
  obtain ⟨hlists, -⟩ := classify_composed [unique, permission] [missing] overlapping true
  obtain ⟨hlists', -⟩ := classify_composed [unique, permission] [missing] "it does not exist" true
  obtain ⟨-, -, -, -, -, hswapped, -⟩ := classify_composed [] [] overlapping true
  exact ⟨⟨hfirst, (hlists _ _ _ hbuilt (.given _) (.given _)).1 hfirst⟩,
    ⟨hnone, (hlists' _ _ _ hbuilt (.given _) (.given _)).2 hnone⟩, hdiffer,
    hswapped _ _ _ _ (.given _) (.given _) hdiffer⟩

theorem classifyMessage_success : c.classifyMessage message = .success ↔
    ∃ r, c.Decides message r ∧ r.category = .success := by
  constructor
  · intro h
    rcases applies_or_none c.rules message with hr | hr
    · obtain ⟨r, hr⟩ := decides_exists hr
      exact ⟨r, hr, hr.classifyMessage.symm.trans h⟩
    · rw [classifyMessage_undecided hr] at h
      cases h
  · rintro ⟨r, hr, hs⟩
    rw [hr.classifyMessage, hs]

theorem Decides.own (h : c.Decides message r) : c.Decides r.needle r := by
  obtain ⟨before, after, hrules, happlies, hbefore⟩ := h
  refine ⟨before, after, hrules, r.applies_own, fun b hb hown => hbefore b hb ?_⟩
  exact List.IsInfix.trans hown happlies

theorem neverSucceeds_iff : c.NeverSucceeds ↔
    ∀ r ∈ c.rules, r.category = .success → c.classifyMessage r.needle ≠ .success := by
  constructor
  · exact fun h r _ _ => h r.needle
  · intro h message hs
    obtain ⟨r, hr, hcategory⟩ := classifyMessage_success.mp hs
    have hmem : r ∈ c.rules := by
      obtain ⟨before, after, hrules, -⟩ := hr
      simp [hrules]
    exact h r hmem hcategory (classifyMessage_success.mpr ⟨r, hr.own, hcategory⟩)

theorem NeverSucceeds.append (h : c.NeverSucceeds) (hr : r.category ≠ .success) :
    (c.append r).NeverSucceeds := by
  intro message hs
  rcases applies_or_none c.rules message with hc | hc
  · exact h message ((classifyMessage_front hc).symm.trans hs)
  · have hlast := (classifyMessage_back (S := [r]) hc).symm.trans hs
    refine classifyMessage_ne_success (fun b hb => ?_) message hlast
    rw [List.mem_singleton.mp hb]
    exact hr

theorem classify_success_iff {exception : Bool} : c.classify exception message = .success ↔
    exception = false ∨ c.classifyMessage message = .success := by
  cases exception <;> simp [classify]

end Classifier

theorem GatewayError.ofCategory_none {category : Category} {reason : String} :
    ofCategory category reason = none ↔ category = .success := by
  cases category <;> simp [ofCategory]

namespace Classifier

/-- Only a rule that says so makes a success of an exception: the one that decides. A classifier has
none for any message exactly if it has none for the needles of its rules, and exactly then success,
and no error, is what there is without an exception and never with one. The classifiers of the four
writes are of this kind, and so is every one whose rules name no success, or to which such a rule is
appended. -/
theorem classify_success (c : Classifier) :
    (∀ message, c.classifyMessage message = .success ↔
      ∃ r, c.Decides message r ∧ r.category = .success) ∧
    (c.NeverSucceeds ↔
      ∀ r ∈ c.rules, r.category = .success → c.classifyMessage r.needle ≠ .success) ∧
    (c.NeverSucceeds ↔ ∀ exception message reason,
      (c.classify exception message = .success ↔ exception = false) ∧
      (GatewayError.ofCategory (c.classify exception message) reason = none ↔
        exception = false)) ∧
    (∀ rules, Built rules c → (∀ r ∈ rules, r.category ≠ .success) → c.NeverSucceeds) ∧
    (∀ r, c.NeverSucceeds → r.category ≠ .success → (c.append r).NeverSucceeds) ∧
    (c ∈ [forCreate, forUpdate, forDelete, forRevive] → c.NeverSucceeds) := by
  refine ⟨fun _ => classifyMessage_success, neverSucceeds_iff, ?calls, ?rules,
    fun _ => NeverSucceeds.append, ?writes⟩
  case calls =>
    constructor
    · intro h exception message reason
      rw [GatewayError.ofCategory_none, classify_success_iff]
      simp [h message]
    · intro h message hs
      have hfalse := (h true message "").1.mp hs
      cases hfalse
  case rules =>
    intro rules hc h
    rw [hc.eq]
    exact classifyMessage_ne_success h
  case writes =>
    intro hc
    have hnames : ∀ c ∈ [forCreate, forUpdate, forDelete, forRevive],
        ∀ r ∈ c.rules, r.category ≠ .success := by decide
    exact classifyMessage_ne_success (hnames c hc)

def shadowing : Classifier := ⟨[⟨"mis", .notFound⟩, ⟨"missing", .success⟩]⟩

theorem classify_success_shadowed :
    (∀ r ∈ shadowing.rules, r.category = .success →
      shadowing.classifyMessage r.needle ≠ .success) ∧
    shadowing.NeverSucceeds ∧ permission.category ≠ .success ∧
    (shadowing.append permission).NeverSucceeds ∧
    ∀ exception message, shadowing.classify exception message = .success ↔ exception = false := by
  obtain ⟨-, hneedles, hcalls, -, happend, -⟩ := classify_success shadowing
  have htest : ∀ r ∈ shadowing.rules, r.category = .success →
      shadowing.classifyMessage r.needle ≠ .success := by
    decide
  have hnever := hneedles.mpr htest
  have hpermission : permission.category ≠ .success := by decide
  exact ⟨htest, hnever, hpermission, happend _ hnever hpermission,
    fun exception message => (hcalls.mp hnever exception message "").1⟩

/-- A rule for success decides a message that reports an exception. -/
theorem classify_success_reported :
    Built [⟨"", .success⟩] ⟨[⟨"", .success⟩]⟩ ∧
    (mk [⟨"", .success⟩]).classifyMessage "boom" = .success ∧
    (mk [⟨"", .success⟩]).classify true "boom" = .success ∧
    GatewayError.ofCategory ((mk [⟨"", .success⟩]).classify true "boom") "boom" = none :=
  ⟨.given _, rfl, rfl, rfl⟩

end Classifier

end RestGateway

import Mathlib.Tactic.SplitIfs
import RestGateway.Proofs.Attempts
import RestGateway.Proofs.Filter.Dispatch
import RestGateway.Startup

/-!
# Ready to listen

The rules on a configuration are checked at two places, the backend's part before the logging is set
up and the formats after it. Both look at the configuration with the options over it, so a start
comes as far as the port exactly when the final values keep every rule.
-/

set_option autoImplicit false

namespace RestGateway

/-- What a configuration must be like for a gateway to start with it. -/
structure Config.Startable (c : Config) : Prop where
  address : "http".toList <+: c.backend.host.toList
  room : 1 ≤ c.backend.cachedClients
  formats : ∀ name ∈ c.formats, name = "format1" ∨ name = "format2" ∨ name = "format3"

theorem Config.validate_ok {c : Config} :
    c.validate = .ok () ↔ "http".toList <+: c.backend.host.toList ∧ 1 ≤ c.backend.cachedClients := by
  unfold validate
  by_cases hempty : c.backend.host.isEmpty = true
  · have hhost : c.backend.host = "" := String.isEmpty_iff.mp hempty
    simp [hhost]
  by_cases hprefix : "http".toList.isPrefixOf c.backend.host.toList = true
  · have hiff := List.isPrefixOf_iff_prefix.mp hprefix
    rw [if_neg hempty, hprefix, if_neg (by simp)]
    by_cases hnone : c.backend.cachedClients = 0
    · simp [hnone]
    · simp only [if_neg hnone, hiff, true_and, true_iff]
      omega
  · have hiff : ¬ "http".toList <+: c.backend.host.toList :=
      fun h => hprefix (List.isPrefixOf_iff_prefix.mpr h)
    rw [if_neg hempty, Bool.eq_false_iff.mpr hprefix]
    exact iff_of_false (by simp) fun h => hiff h.1

theorem Registry.isRegistered_builtin {name : String} :
    builtin.isRegistered name = true ↔
      name = "format1" ∨ name = "format2" ∨ name = "format3" := by
  constructor
  · intro h
    obtain ⟨f, hf⟩ := Option.isSome_iff_exists.mp h
    have hm := find_builtin.mp hf
    simp only [builtinFormats, List.mem_cons, Prod.mk.injEq, List.not_mem_nil, or_false] at hm
    rcases hm with ⟨h, -⟩ | ⟨h, -⟩ | ⟨h, -⟩
    · exact Or.inl h
    · exact Or.inr (Or.inl h)
    · exact Or.inr (Or.inr h)
  · rintro (rfl | rfl | rfl) <;> rfl

namespace Gateway

theorem make_known {c : Config}
    (h : ∀ name ∈ c.formats, name = "format1" ∨ name = "format2" ∨ name = "format3") :
    make c = .ok ⟨c, Registry.builtinActive c.formats,
      .make c.backend.host c.backend.apiPath c.backend.cachedClients⟩ := by
  have ha := Registry.activate_registered .builtin c.formats
    fun name hn => Registry.isRegistered_builtin.mpr (h name hn)
  rw [make, withFormats, ha]
  rfl

theorem make_ok {c : Config} {g : Gateway} (h : make c = .ok g) :
    (∀ name ∈ c.formats, name = "format1" ∨ name = "format2" ∨ name = "format3") ∧
      g.config = c ∧ g.formats = Registry.builtinActive c.formats := by
  unfold make withFormats at h
  cases ha : Registry.builtin.activate c.formats with
  | error e =>
    rw [ha] at h
    cases h
  | ok active =>
    rw [ha] at h
    cases h
    obtain ⟨hn, rfl⟩ := Registry.activate_ok ha
    exact ⟨fun name hm => Registry.isRegistered_builtin.mp (hn name hm), rfl, rfl⟩

end Gateway

namespace Startup

variable {o : CommandLine.Options} {s : Config.Surroundings}

theorem start_outcome (c : Config) :
    (start c).outcome = (Gateway.make c).mapError .state := by
  unfold start
  cases Gateway.make c <;> rfl

theorem configure_loaded {loaded : Config} (hl : Config.load s o.config = .ok loaded) :
    configure o s =
      (o.appliedTo loaded).validate.mapError .invalid >>= fun _ => .ok (o.appliedTo loaded) := by
  rw [configure, hl]
  rfl

/-- A start fails over a file or a value, over a rule for the backend or over an unknown format, or
has a gateway for the final configuration. -/
theorem run_cases (o : CommandLine.Options) (s : Config.Surroundings) :
    (∃ e, Config.load s o.config = .error e ∧ (run o s).outcome = .error (.load o.config e)) ∨
    ∃ loaded, Config.load s o.config = .ok loaded ∧
      ((∃ e, (o.appliedTo loaded).validate = .error e ∧ (run o s).outcome = .error (.invalid e)) ∨
        ((o.appliedTo loaded).validate = .ok () ∧
          (run o s).outcome = (Gateway.make (o.appliedTo loaded)).mapError .state)) := by
  cases hl : Config.load s o.config with
  | error e =>
    refine Or.inl ⟨e, rfl, ?_⟩
    rw [run, configure, hl]
    rfl
  | ok loaded =>
    refine Or.inr ⟨loaded, rfl, ?_⟩
    cases hv : (o.appliedTo loaded).validate with
    | error e =>
      refine Or.inl ⟨e, rfl, ?_⟩
      rw [run, configure_loaded hl, hv]
      rfl
    | ok u =>
      refine Or.inr ⟨rfl, ?_⟩
      rw [run, configure_loaded hl, hv]
      exact start_outcome _

/-- A start is ready to listen exactly when the configuration loads and its final values keep every
rule, and then the final formats are the active ones. Every other start stops with an error before
the port is touched. -/
theorem run_ready (o : CommandLine.Options) (s : Config.Surroundings) :
    ((∃ g, (run o s).outcome = .ok g) ↔
      ∃ loaded, Config.load s o.config = .ok loaded ∧ (o.appliedTo loaded).Startable) ∧
    (∀ g loaded, (run o s).outcome = .ok g → Config.load s o.config = .ok loaded →
      g.config = o.appliedTo loaded ∧ g.formats.formats = Registry.builtin.formats ∧
        g.formats.active = (o.appliedTo loaded).formats) ∧
    ((¬ ∃ g, (run o s).outcome = .ok g) →
      ∃ f, (run o s).outcome = .error f ∧ ∀ reason, f ≠ .listen reason) := by
  rcases run_cases o s with ⟨e, hl, hrun⟩ | ⟨loaded, hl, ⟨e, hv, hrun⟩ | ⟨hv, hrun⟩⟩
  · rw [hrun, hl]
    exact ⟨by simp, by simp, fun _ => ⟨_, rfl, by simp⟩⟩
  · have hbad : ¬ (o.appliedTo loaded).Startable := by
      intro h
      rw [Config.validate_ok.mpr ⟨h.address, h.room⟩] at hv
      cases hv
    rw [hrun, hl]
    exact ⟨by simp [hbad], by simp, fun _ => ⟨_, rfl, by simp⟩⟩
  · obtain ⟨haddress, hroom⟩ := Config.validate_ok.mp hv
    rw [hrun, hl]
    cases hg : Gateway.make (o.appliedTo loaded) with
    | error e =>
      have hbad : ¬ (o.appliedTo loaded).Startable := by
        intro h
        rw [Gateway.make_known h.formats] at hg
        cases hg
      exact ⟨by simp [hbad], by simp, fun _ => ⟨_, rfl, by simp⟩⟩
    | ok g =>
      obtain ⟨hformats, hconfig, hactive⟩ := Gateway.make_ok hg
      refine ⟨⟨fun _ => ⟨loaded, rfl, haddress, hroom, hformats⟩, fun _ => ⟨g, rfl⟩⟩, ?_, ?_⟩
      · intro g' loaded' hg' hl'
        cases hg'
        cases hl'
        exact ⟨hconfig, by rw [hactive]; rfl, by rw [hactive]; rfl⟩
      · intro hnone
        exact absurd ⟨g, rfl⟩ hnone

end Startup

end RestGateway

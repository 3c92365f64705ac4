import Mediation.Proofs.Registry.Preservation
import Mediation.Proofs.Registry.Report

/-!
This module contains the comparison of a registry that stops at the first rejection with one that
does not, when both take the same steps: they hold the same declarations, and of what the second one
reports the first one reports the front part.
-/

namespace Mediation

/--
What the report of a pass that stops at the first rejection is to the report of one that does not,
over the same declarations.
-/
structure Report.Truncates (short long : Report) (declarations : List Declaration) : Prop where
  classified :
    ∃ classified,
      LongestClassified classified declarations ∧
        classified.map Declaration.classify = short.configurations.map .ok
  configurations : short.configurations <+: long.configurations
  rejections : short.rejections = long.rejections.take 1

theorem Report.truncates_ofDeclarations (declarations : List Declaration) :
    (ofDeclarations true declarations).Truncates (ofDeclarations false declarations)
      declarations := by
  constructor
  · apply exists_longestClassified
  · apply configurations_true_isPrefix
  · apply rejections_true

namespace Registry

/--
Two runs of the same steps, turn by turn.
-/
inductive Lockstep (related : Step → Turn → Turn → Prop) :
    List Step → List Turn → List Turn → Prop where
  | nil : Lockstep related [] [] []
  | cons {step : Step} {left right : Turn} {steps : List Step} {lefts rights : List Turn} :
    related step left right → Lockstep related steps lefts rights →
      Lockstep related (step :: steps) (left :: lefts) (right :: rights)

/--
What a registry that stops at the first rejection answers to a step, next to the answer of one that
does not.
-/
def AnswersTruncated (declarations : List Declaration) (fast full : Except Fault Answer) :
    Step → Prop
  | .compute =>
    ∃ short long,
      fast = .ok (.report short) ∧ full = .ok (.report long) ∧ short.Truncates long declarations
  | .build =>
    (∃ configurations,
      fast = .ok (.configurations configurations) ∧ full = .ok (.configurations configurations)) ∨
    (∃ first rest,
      fast = .error (.unconfigured [first]) ∧ full = .error (.unconfigured (first :: rest)))
  | .get _ =>
    ∀ configuration,
      fast = .ok (.configuration (some configuration)) →
        full = .ok (.configuration (some configuration))
  | .register _ | .importManifest _ | .has _ | .list => fast = full

structure Turn.Truncates (step : Step) (fast full : Turn) : Prop where
  identities : fast.registry.identities = full.registry.identities
  get? :
    ∀ identity configuration,
      fast.registry.get? identity = some configuration →
        full.registry.get? identity = some configuration
  answers : AnswersTruncated full.registry.declarations fast.answer full.answer step

/--
A registry that stops at the first rejection holds the declarations of one that does not, and the
front part of its configurations.
-/
structure Truncates (fast full : Registry) : Prop where
  failFast_fast : fast.failFast = true
  failFast_full : full.failFast = false
  declarations : fast.declarations = full.declarations
  configurations : fast.configurations <+: full.configurations

variable {fast full : Registry}

theorem Truncates.eq_with (h : Truncates fast full) :
    fast = { full with failFast := true, configurations := fast.configurations } := by
  rcases fast with ⟨failFast, declarations, configurations⟩
  rw [Registry.mk.injEq]
  exact ⟨h.failFast_fast, h.declarations, rfl⟩

theorem Truncates.report_fast (h : Truncates fast full) :
    fast.report = .ofDeclarations true full.declarations := by
  rw [report_eq_ofDeclarations, h.failFast_fast, h.declarations]

theorem Truncates.report_full (h : Truncates fast full) :
    full.report = .ofDeclarations false full.declarations := by
  rw [report_eq_ofDeclarations, h.failFast_full]

theorem Truncates.afterPass (h : Truncates fast full) :
    Truncates fast.afterPass full.afterPass := by
  constructor
  · exact h.failFast_fast
  · exact h.failFast_full
  · exact h.declarations
  · unfold Registry.afterPass
    rw [h.report_fast, h.report_full]
    apply Report.configurations_true_isPrefix

theorem Truncates.register (h : Truncates fast full) (declaration : Declaration) :
    (∃ fastNext fullNext,
      fast.register declaration = .ok fastNext ∧ full.register declaration = .ok fullNext ∧
        Truncates fastNext fullNext) ∨
    (∃ fault,
      fast.register declaration = .error fault ∧ full.register declaration = .error fault) := by
  -- Both registries hold the same declarations, so that the second one speaks for the first.
  rw [h.eq_with, register_with]
  cases hfull : full.register declaration with
  | ok next =>
    left
    refine ⟨_, _, rfl, rfl, ?_⟩
    obtain ⟨_, _, _, rfl⟩ := register_eq_ok_iff.mp hfull
    exact ⟨rfl, h.failFast_full, rfl, h.configurations⟩
  | error fault =>
    right
    exact ⟨fault, rfl, rfl⟩

theorem Truncates.registerAll (h : Truncates fast full) (declarations : List Declaration) :
    Truncates (fast.registerAll declarations).registry (full.registerAll declarations).registry ∧
      (fast.registerAll declarations).fault? = (full.registerAll declarations).fault? := by
  induction declarations generalizing fast full with
  | nil => exact ⟨h, rfl⟩
  | cons declaration declarations ih =>
    unfold Registry.registerAll
    rcases h.register declaration with ⟨_, _, hfast, hfull, hnext⟩ | ⟨_, hfast, hfull⟩
    · rw [hfast, hfull]
      exact ih hnext
    · rw [hfast, hfull]
      exact ⟨h, rfl⟩

theorem Truncates.complete (h : Truncates fast full) :
    (∃ configurations,
      fast.report.complete = .ok configurations ∧ full.report.complete = .ok configurations) ∨
    (∃ first rest,
      fast.report.complete = .error (.unconfigured [first]) ∧
        full.report.complete = .error (.unconfigured (first :: rest))) := by
  rw [h.report_fast, h.report_full]
  cases hfull : (Report.ofDeclarations false full.declarations).rejections with
  | nil =>
    left
    rw [Report.ofDeclarations_true_of_complete hfull]
    have hcomplete := Report.complete_eq_ok_iff.mpr ⟨hfull, rfl⟩
    exact ⟨_, hcomplete, hcomplete⟩
  | cons first rest =>
    right
    refine ⟨first, rest, ?_, ?_⟩
    · rw [Report.complete_eq_error_iff, Report.rejections_true, hfull]
      simp
    · rw [Report.complete_eq_error_iff, hfull]
      simp

theorem Truncates.identities (h : Truncates fast full) : fast.identities = full.identities := by
  unfold Registry.identities
  rw [h.declarations]

theorem Truncates.turn {step : Step} {fastTurn fullTurn : Turn}
    (h : Truncates fastTurn.registry fullTurn.registry)
    (answers :
      AnswersTruncated fullTurn.registry.declarations fastTurn.answer fullTurn.answer step) :
    Truncates fastTurn.registry fullTurn.registry ∧ fastTurn.Truncates step fullTurn := by
  constructor
  · exact h
  · constructor
    · exact h.identities
    · intro identity configuration hget
      exact get?_of_isPrefix h.configurations hget
    · exact answers

theorem Truncates.step (h : Truncates fast full) (step : Step) :
    Truncates (fast.step step).registry (full.step step).registry ∧
      (fast.step step).Truncates step (full.step step) := by
  cases step with
  | register declaration =>
    rcases h.register declaration with ⟨_, _, hfast, hfull, hnext⟩ | ⟨_, hfast, hfull⟩
    · unfold Registry.step
      dsimp only
      rw [hfast, hfull]
      exact hnext.turn rfl
    · unfold Registry.step
      dsimp only
      rw [hfast, hfull]
      exact h.turn rfl
  | importManifest input =>
    unfold Registry.step
    dsimp only
    cases Metadata.parseManifest input with
    | ok declarations =>
      obtain ⟨hnext, hfault⟩ := h.registerAll declarations
      apply hnext.turn
      dsimp only [AnswersTruncated]
      rw [hfault]
    | error fault => exact h.turn rfl
  | compute =>
    apply h.afterPass.turn
    refine ⟨fast.report, full.report, rfl, rfl, ?_⟩
    rw [h.report_fast, h.report_full]
    apply Report.truncates_ofDeclarations
  | build =>
    apply Truncates.turn
    · rw [step_build_registry, step_build_registry]
      exact h.afterPass
    · rw [step_build_answer, step_build_answer]
      rcases h.complete with ⟨configurations, hfast, hfull⟩ | ⟨first, rest, hfast, hfull⟩
      · rw [hfast, hfull]
        left
        exact ⟨configurations, rfl, rfl⟩
      · rw [hfast, hfull]
        right
        exact ⟨first, rest, rfl, rfl⟩
  | has identity =>
    apply h.turn
    change Except.ok (Answer.registered (fast.has identity)) = _
    unfold has
    rw [h.identities]
    rfl
  | get identity =>
    apply h.turn
    intro configuration hget
    have hfast : fast.get? identity = some configuration := by simpa [Registry.step] using hget
    simp [Registry.step, get?_of_isPrefix h.configurations hfast]
  | list =>
    apply h.turn
    change Except.ok (Answer.declarations fast.declarations) = _
    rw [h.declarations]
    rfl

theorem Truncates.run (h : Truncates fast full) (steps : List Step) :
    Lockstep Turn.Truncates steps (fast.run steps) (full.run steps) := by
  induction steps generalizing fast full with
  | nil => exact .nil
  | cons step steps ih =>
    obtain ⟨hnext, hturn⟩ := h.step step
    exact .cons hturn (ih hnext)

/--
A run that stops its passes at the first rejection is a run that does not, cut short and nothing
else.
-/
theorem run_failFast_truncates (steps : List Step) :
    Lockstep Turn.Truncates steps ((empty true).run steps) ((empty false).run steps) := by
  have h : Truncates (empty true) (empty false) := ⟨rfl, rfl, rfl, List.prefix_rfl⟩
  exact h.run steps

end Registry

end Mediation

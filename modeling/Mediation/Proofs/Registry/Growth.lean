import Mediation.Proofs.Registry.Invariant

/-!
This module contains how the turns of one run depend on each other: what a pass has found, what has
been answered for an identity and what has made a build fail lasts for the rest of the run.
-/

namespace Mediation

/--
What the report of a pass is to the report of a later pass.
-/
structure Report.Grows (failFast : Bool) (earlier later : Report) : Prop where
  configurations : earlier.configurations <+: later.configurations
  rejections : earlier.rejections <+: later.rejections
  settled : failFast = true → earlier.rejections ≠ [] → later = earlier

theorem Report.grows_ofDeclarations {failFast : Bool} {declarations whole : List Declaration}
    (h : declarations <+: whole) :
    (ofDeclarations failFast declarations).Grows failFast (ofDeclarations failFast whole) := by
  constructor
  · exact isPrefix_configurations h
  · exact isPrefix_rejections h
  · rintro rfl hrejected
    obtain ⟨added, rfl⟩ := h
    exact ofDeclarations_true_append_of_rejected _ _ hrejected

namespace Registry

/--
A later state of a registry.
-/
structure Extends (earlier later : Registry) : Prop where
  failFast : later.failFast = earlier.failFast
  declarations : earlier.declarations <+: later.declarations
  configurations : earlier.configurations <+: later.configurations

variable {registry earlier later : Registry}

theorem WellFormed.extends_after (h : registry.WellFormed) (steps : List Step) :
    registry.Extends (registry.after steps) := by
  apply after_preserves (motive := registry.Extends)
  · intro current declaration next hnext hcurrent
    obtain ⟨_, _, _, rfl⟩ := register_eq_ok_iff.mp hnext
    constructor
    · exact hcurrent.failFast
    · exact hcurrent.declarations.trans (List.prefix_append _ _)
    · exact hcurrent.configurations
  · intro current hcurrent
    constructor
    · exact hcurrent.failFast
    · exact hcurrent.declarations
    -- The pass starts from nothing, but what an earlier one has visited is still in front.
    · obtain ⟨visited, hprefix, hconfigurations⟩ := h.computed
      change _ <+: current.report.configurations
      rw [hconfigurations, report_eq_ofDeclarations, hcurrent.failFast]
      apply Report.isPrefix_configurations
      exact hprefix.trans hcurrent.declarations
  · exact ⟨rfl, List.prefix_rfl, List.prefix_rfl⟩

theorem Extends.report (h : earlier.Extends later) :
    earlier.report.Grows earlier.failFast later.report := by
  rw [report_eq_ofDeclarations, report_eq_ofDeclarations, h.failFast]
  exact Report.grows_ofDeclarations h.declarations

inductive Step.IsPass : Step → Prop where
  | compute : IsPass .compute
  | build : IsPass .build

structure Moment where
  step : Step
  turn : Turn

/--
What the pass of a moment has found, as far as the caller can see it. A build that fails answers
with the rejections and leaves the configurations behind.
-/
def Moment.report? (moment : Moment) : Option Report :=
  match moment.step, moment.turn.answer with
  | .compute, .ok (.report report) => some report
  | .build, .ok (.configurations configurations) => some { configurations, rejections := [] }
  | .build, .error (.unconfigured rejections) =>
    some { configurations := moment.turn.registry.configurations, rejections }
  | _, _ => none

def history (registry : Registry) (steps : List Step) : List Moment :=
  List.zipWith Moment.mk steps (registry.run steps)

@[simp]
theorem history_cons (registry : Registry) (step : Step) (steps : List Step) :
    registry.history (step :: steps) =
      { step, turn := registry.step step } :: (registry.step step).registry.history steps := by
  rfl

theorem map_step_history (registry : Registry) (steps : List Step) :
    (registry.history steps).map Moment.step = steps := by
  induction steps generalizing registry with
  | nil => rfl
  | cons step steps ih => rw [history_cons, List.map_cons, ih]

theorem exists_of_mem_history {steps : List Step} {moment : Moment}
    (h : moment ∈ registry.history steps) :
    ∃ before step, moment = { step, turn := (registry.after before).step step } := by
  induction steps generalizing registry with
  | nil => cases h
  | cons step steps ih =>
    rw [history_cons] at h
    rcases List.mem_cons.mp h with rfl | hmem
    · exact ⟨[], step, rfl⟩
    · obtain ⟨before, laterStep, rfl⟩ := ih hmem
      exact ⟨step :: before, laterStep, by rw [after_cons]⟩

/--
What a caller has seen at one moment of a run and can rely on at a later one.
-/
structure Moment.Lasts (failFast : Bool) (earlier later : Moment) : Prop where
  report :
    earlier.step.IsPass → later.step.IsPass →
      ∃ found foundLater,
        earlier.report? = some found ∧ later.report? = some foundLater ∧
          found.Grows failFast foundLater
  get :
    ∀ identity configuration,
      earlier.step = .get identity → later.step = .get identity →
        earlier.turn.answer = .ok (.configuration (some configuration)) →
          later.turn.answer = .ok (.configuration (some configuration))
  build :
    ∀ rejections,
      earlier.step = .build → later.step = .build →
        earlier.turn.answer = .error (.unconfigured rejections) →
          ∃ more, later.turn.answer = .error (.unconfigured (rejections ++ more))

theorem report?_of_isPass {step : Step} (h : step.IsPass) :
    Moment.report? { step, turn := registry.step step } = some registry.report := by
  cases h with
  | compute => rfl
  | build =>
    unfold Moment.report? Registry.step Report.complete
    rcases hreport : registry.report with ⟨configurations, rejections⟩
    cases rejections with
    | nil => rfl
    | cons first rest =>
      unfold afterPass
      rw [hreport]

theorem step_build_answer_eq_ok_iff {answer : Answer} :
    (registry.step .build).answer = .ok answer ↔
      registry.report.rejections = [] ∧
        answer = .configurations registry.report.configurations := by
  rw [step_build_answer]
  unfold Report.complete
  cases registry.report.rejections <;> simp [Except.map, eq_comm]

theorem step_build_answer_eq_error_iff {rejections : List Rejection} :
    (registry.step .build).answer = .error (.unconfigured rejections) ↔
      registry.report.rejections ≠ [] ∧ rejections = registry.report.rejections := by
  have hanswer :
      (registry.step .build).answer = .error (.unconfigured rejections) ↔
        registry.report.complete = .error (.unconfigured rejections) := by
    rw [step_build_answer]
    cases registry.report.complete <;> simp [Except.map]
  rw [hanswer, Report.complete_eq_error_iff, Fault.unconfigured.injEq]

theorem Extends.lasts (h : earlier.Extends later) (earlierStep laterStep : Step) :
    Moment.Lasts earlier.failFast
      { step := earlierStep, turn := earlier.step earlierStep }
      { step := laterStep, turn := later.step laterStep } := by
  constructor
  · intro hearlier hlater
    refine ⟨earlier.report, later.report, ?_, ?_, h.report⟩
    · exact report?_of_isPass hearlier
    · exact report?_of_isPass hlater
  · rintro identity configuration rfl rfl hanswer
    have hget : earlier.get? identity = some configuration := by
      simpa [Registry.step] using hanswer
    simp [Registry.step, get?_of_isPrefix h.configurations hget]
  · rintro rejections rfl rfl hanswer
    obtain ⟨hrejected, rfl⟩ := step_build_answer_eq_error_iff.mp hanswer
    obtain ⟨more, hmore⟩ := h.report.rejections
    refine ⟨more, step_build_answer_eq_error_iff.mpr ⟨?_, hmore⟩⟩
    rw [← hmore]
    exact List.append_ne_nil_of_left_ne_nil hrejected more

theorem WellFormed.pairwise_history (h : registry.WellFormed) (steps : List Step) :
    (registry.history steps).Pairwise (Moment.Lasts registry.failFast) := by
  induction steps generalizing registry with
  | nil => exact .nil
  | cons step steps ih =>
    rw [history_cons, List.pairwise_cons]
    constructor
    · intro moment hmem
      obtain ⟨before, laterStep, rfl⟩ := exists_of_mem_history hmem
      rw [← after_cons]
      exact (h.extends_after (step :: before)).lasts step laterStep
    · have hfailFast : (registry.step step).registry.failFast = registry.failFast :=
        (h.extends_after [step]).failFast
      rw [← hfailFast]
      exact ih (h.after [step])

/--
What a caller has seen during a run lasts: what passes find only grows, a configuration that was
handed out is handed out again, and a build that has failed keeps failing.
-/
theorem history_lasts (failFast : Bool) (steps : List Step) :
    ((empty failFast).history steps).Pairwise (Moment.Lasts failFast) := by
  exact (wellFormed_empty failFast).pairwise_history steps

end Registry

end Mediation

import Mediation.Proofs.Registry.Preservation
import Mediation.Proofs.Registry.Report
import Mediation.Registry.Session

/-!
This module contains the use of a registry that writes to a logger while it goes. The logger decides
what it keeps and nothing else, and what it is given during a pass mirrors the report of the pass.
-/

namespace Mediation

namespace Log

namespace Logger

def logAll (logger : Logger) (events : List Event) : Logger :=
  events.foldl log logger

theorem logAll_cons (logger : Logger) (event : Event) (events : List Event) :
    logger.logAll (event :: events) = (logger.log event).logAll events := by
  rfl

theorem logAll_append (logger : Logger) (events more : List Event) :
    logger.logAll (events ++ more) = (logger.logAll events).logAll more := by
  apply List.foldl_append

end Logger

theorem Event.level_ne_silent (event : Event) : event.level ≠ .silent := by
  cases event <;> simp [level]

theorem Event.debug_le_level (event : Event) :
    Level.debug.severity ≤ event.level.severity := by
  cases event <;> simp [level, Level.severity]

theorem keep_eq_filter (threshold : Level) (events : List Event) :
    keep threshold events =
      events.filter fun event => threshold.severity ≤ event.level.severity := by
  apply List.filter_congr
  intro event _
  unfold Level.keeps
  rw [decide_eq_decide]
  exact and_iff_right event.level_ne_silent

theorem keep_debug (events : List Event) : keep .debug events = events := by
  rw [keep_eq_filter, List.filter_eq_self]
  intro event _
  exact decide_eq_true event.debug_le_level

theorem Logger.logAll_eq (logger : Logger) (events : List Event) :
    logger.logAll events =
      { logger with written := logger.written ++ keep logger.threshold events } := by
  rw [keep_eq_filter]
  induction events generalizing logger with
  | nil => simp [logAll]
  | cons event events ih =>
    rw [logAll_cons, ih, log]
    split
    next h => simp [h]
    next h => simp [h]

end Log

namespace Registry

theorem visit_eq (failFast : Bool) (report : Report) (logger : Log.Logger)
    (declarations : List Declaration) :
    visit failFast report logger declarations =
      ({
        configurations :=
          report.configurations ++ (Report.ofDeclarations failFast declarations).configurations
        rejections :=
          report.rejections ++ (Report.ofDeclarations failFast declarations).rejections
      }, logger.logAll ((classifyAll failFast declarations).map outcomeEvent)) := by
  induction declarations generalizing report logger with
  | nil => simp [visit, classifyAll, Log.Logger.logAll]
  | cons declaration declarations ih =>
    unfold visit classifyAll
    cases h : declaration.classify with
    | ok configuration =>
      dsimp only
      rw [ih, Report.ofDeclarations_cons_of_ok h]
      simp [Log.Logger.logAll_cons, outcomeEvent]
    | error rejection =>
      cases failFast with
      | true =>
        rw [Report.ofDeclarations_true_cons_of_error h]
        simp [Log.Logger.logAll, outcomeEvent]
      | false =>
        dsimp only
        rw [if_neg Bool.false_ne_true, if_neg Bool.false_ne_true, ih,
          Report.ofDeclarations_false_cons_of_error h]
        simp [Log.Logger.logAll_cons, outcomeEvent]

theorem performPass_eq (registry : Registry) (logger : Log.Logger) :
    registry.performPass logger =
      (registry.report, logger.logAll (registry.outcomes.map outcomeEvent)) := by
  unfold performPass
  rw [visit_eq]
  rfl

theorem performRegisterAll_eq (registry : Registry) (logger : Log.Logger)
    (declarations : List Declaration) :
    registry.performRegisterAll logger declarations =
      {
        registry := (registry.registerAll declarations).registry
        answer := (registry.registerAll declarations).fault?.elim (.ok .done) .error
        logger := logger.logAll ((registry.registerAll declarations).accepted.map .registered)
      } := by
  induction declarations generalizing registry logger with
  | nil => rfl
  | cons declaration declarations ih =>
    unfold performRegisterAll performRegister registerAll
    cases registry.register declaration with
    | ok next => exact ih next _
    | error fault => rfl

/--
A step against a logger is a step that writes its events afterwards.
-/
theorem perform_eq (registry : Registry) (logger : Log.Logger) (step : Step) :
    registry.perform logger step =
      {
        registry := (registry.step step).registry
        answer := (registry.step step).answer
        logger := logger.logAll (registry.step step).events
      } := by
  cases step with
  | register declaration =>
    unfold perform performRegister
    dsimp only
    cases h : registry.register declaration with
    | ok next =>
      rw [step_register_of_ok h]
      rfl
    | error fault =>
      rw [step_register_of_error h]
      rfl
  | importManifest input =>
    unfold perform
    dsimp only
    cases h : Metadata.parseManifest input with
    | ok declarations =>
      rw [step_importManifest_of_ok registry h]
      apply performRegisterAll_eq
    | error fault =>
      rw [step_importManifest_of_error registry h]
      rfl
  | compute =>
    unfold perform
    rw [performPass_eq]
    rfl
  | build =>
    unfold perform Registry.step Report.complete
    rw [performPass_eq]
    dsimp only
    cases registry.report.rejections with
    | nil =>
      dsimp only
      rw [Log.Logger.logAll_append]
      rfl
    | cons first rest => rfl
  | has identity => rfl
  | get identity => rfl
  | list => rfl

theorem session_eq_map_run (registry : Registry) (threshold : Log.Level) (steps : List Step) :
    registry.session threshold steps =
      (registry.run steps).map fun turn =>
        {
          answer := turn.answer
          identities := turn.registry.identities
          records := turn.records threshold
        } := by
  induction steps generalizing registry with
  | nil => rfl
  | cons step steps ih =>
    unfold session run
    dsimp only
    rw [perform_eq, ih, Log.Logger.logAll_eq]
    rfl

/--
The declarations that a pass visits: all of them, unless the pass stops at the first rejection.
-/
inductive Visits (failFast : Bool) : List Declaration → List Declaration → Prop where
  | all {declarations : List Declaration} :
    Report.GetsBeyond failFast declarations → Visits failFast declarations declarations
  | stopped {earlier later : List Declaration} {declaration : Declaration}
    {rejection : Rejection} :
    failFast = true → Report.GetsBeyond failFast earlier →
    declaration.classify = .error rejection →
      Visits failFast (earlier ++ declaration :: later) (earlier ++ [declaration])

theorem Visits.cons {failFast : Bool} {declarations visited : List Declaration}
    {declaration : Declaration} {configuration : Configuration}
    (hclassify : declaration.classify = .ok configuration)
    (h : Visits failFast declarations visited) :
    Visits failFast (declaration :: declarations) (declaration :: visited) := by
  cases h with
  | all hbeyond => exact .all ((Report.getsBeyond_cons_of_ok hclassify).mpr hbeyond)
  | stopped hfast hbeyond hrejected =>
    rw [← List.cons_append, ← List.cons_append]
    exact .stopped hfast ((Report.getsBeyond_cons_of_ok hclassify).mpr hbeyond) hrejected

/--
The records of a pass, one for each declaration that is visited, next to what the pass reports. Each
of them is about the configuration or the rejection that the report lists next.
-/
inductive Mirrors :
    List Declaration → List Configuration → List Rejection → List Log.Event → Prop where
  | nil : Mirrors [] [] [] []
  | classified {declaration : Declaration} {visited : List Declaration}
    {configuration : Configuration} {configurations : List Configuration}
    {rejections : List Rejection} {event : Log.Event} {events : List Log.Event} :
    declaration.classify = .ok configuration →
    event.toJson =
      .object
        [("level", .string "debug"), ("msg", .string "Classified mediator"),
          ("identity", .string configuration.identity),
          ("shape", .string configuration.shape.name),
          ("production", .string configuration.production.name),
          ("consumption", .string configuration.consumption.name)] →
    Mirrors visited configurations rejections events →
      Mirrors (declaration :: visited) (configuration :: configurations) rejections
        (event :: events)
  | failed {declaration : Declaration} {visited : List Declaration}
    {configurations : List Configuration} {rejection : Rejection} {rejections : List Rejection}
    {event : Log.Event} {events : List Log.Event} :
    declaration.classify = .error rejection →
    event.toJson =
      .object
        [("level", .string "error"), ("msg", .string "Mediator configuration failed"),
          ("identity", .string rejection.identity), ("code", .string rejection.code.name),
          ("reason", .string rejection.reason)] →
    Mirrors visited configurations rejections events →
      Mirrors (declaration :: visited) configurations (rejection :: rejections) (event :: events)

theorem exists_visits_mirrors (failFast : Bool) (declarations : List Declaration) :
    ∃ visited,
      Visits failFast declarations visited ∧
        Mirrors visited (Report.ofDeclarations failFast declarations).configurations
          (Report.ofDeclarations failFast declarations).rejections
          ((classifyAll failFast declarations).map outcomeEvent) := by
  induction declarations with
  | nil => exact ⟨[], .all (Report.getsBeyond_nil failFast), .nil⟩
  | cons declaration declarations ih =>
    obtain ⟨visited, hvisits, hmirrors⟩ := ih
    unfold classifyAll
    cases h : declaration.classify with
    | ok configuration =>
      rw [Report.ofDeclarations_cons_of_ok h]
      exact ⟨declaration :: visited, hvisits.cons h, .classified h rfl hmirrors⟩
    | error rejection =>
      cases failFast with
      | true =>
        rw [Report.ofDeclarations_true_cons_of_error h]
        have hstopped : Visits true ([] ++ declaration :: declarations) ([] ++ [declaration]) :=
          .stopped rfl (Report.getsBeyond_nil true) h
        exact ⟨[declaration], hstopped, .failed h rfl .nil⟩
      | false =>
        rw [Report.ofDeclarations_false_cons_of_error h]
        refine ⟨declaration :: declarations, .all ?_, .failed h rfl ?_⟩
        · exact (Report.getsBeyond_cons_of_error h).mpr rfl
        · cases hvisits with
          | all _ => exact hmirrors
          | stopped hfast _ _ => cases hfast

/--
What a step has written to a logger that keeps everything.
-/
def Logs (registry : Registry) (performance : Performance) : Step → Prop
  | .compute =>
    ∃ report visited,
      performance.answer = .ok (.report report) ∧
        Visits registry.failFast registry.declarations visited ∧
          Mirrors visited report.configurations report.rejections performance.logger.written
  | .build =>
    let pass := (registry.perform { threshold := .debug, written := [] } .compute).logger.written
    (∃ configurations event,
      performance.answer = .ok (.configurations configurations) ∧
        event.toJson =
          .object
            [("level", .string "info"), ("msg", .string "Mediators configured"),
              ("total", .count configurations.length)] ∧
          performance.logger.written = pass ++ [event]) ∨
    (∃ rejections,
      performance.answer = .error (.unconfigured rejections) ∧ performance.logger.written = pass)
  | .register declaration =>
    (performance.answer = .ok .done ∧ performance.logger.written = [.registered declaration]) ∨
    (∃ fault, performance.answer = .error fault ∧ performance.logger.written = [])
  | .importManifest _ =>
    ∃ added,
      performance.registry.declarations = registry.declarations ++ added ∧
        performance.logger.written = added.map .registered
  | .has _ | .get _ | .list => performance.logger.written = []

theorem perform_debug_eq (registry : Registry) (step : Step) :
    registry.perform { threshold := .debug, written := [] } step =
      {
        registry := (registry.step step).registry
        answer := (registry.step step).answer
        logger := { threshold := .debug, written := (registry.step step).events }
      } := by
  rw [perform_eq, Log.Logger.logAll_eq, Log.keep_debug, List.nil_append]

theorem logs_perform (registry : Registry) (step : Step) :
    registry.Logs (registry.perform { threshold := .debug, written := [] } step) step := by
  rw [perform_debug_eq]
  cases step with
  | register declaration =>
    cases h : registry.register declaration with
    | ok next =>
      rw [step_register_of_ok h]
      exact .inl ⟨rfl, rfl⟩
    | error fault =>
      rw [step_register_of_error h]
      exact .inr ⟨fault, rfl, rfl⟩
  | importManifest input =>
    cases h : Metadata.parseManifest input with
    | ok declarations =>
      rw [step_importManifest_of_ok registry h, registerAll_registry]
      exact ⟨_, rfl, rfl⟩
    | error fault =>
      rw [step_importManifest_of_error registry h]
      exact ⟨[], (List.append_nil _).symm, rfl⟩
  | compute =>
    obtain ⟨visited, hvisits, hmirrors⟩ :=
      exists_visits_mirrors registry.failFast registry.declarations
    exact ⟨registry.report, visited, rfl, hvisits, hmirrors⟩
  | build =>
    unfold Logs
    rw [perform_debug_eq]
    unfold Registry.step
    dsimp only
    cases h : registry.report.complete with
    | ok configurations => exact .inl ⟨configurations, _, rfl, rfl, rfl⟩
    | error fault =>
      obtain ⟨_, rfl⟩ := Report.complete_eq_error_iff.mp h
      exact .inr ⟨_, rfl, rfl⟩
  | has identity => rfl
  | get identity => rfl
  | list => rfl

/--
A run answers the same whatever its loggers keep, and what they keep is what a logger that keeps
everything keeps, filtered by severity. What is logged during a pass mirrors what the pass visits
and what it reports.
-/
theorem logging_is_pure_and_mirrors_passes (failFast : Bool) (steps : List Step) :
    (∀ left right,
      ((empty failFast).session left steps).map (·.answer) =
          ((empty failFast).session right steps).map (·.answer) ∧
        ((empty failFast).session left steps).map (·.identities) =
          ((empty failFast).session right steps).map (·.identities)) ∧
    (∀ threshold,
      ((empty failFast).session threshold steps).map (·.records) =
        ((empty failFast).session .debug steps).map fun shown =>
          shown.records.filter fun event => threshold.severity ≤ event.level.severity) ∧
    [Log.Level.debug, .info, .error, .fatal, .silent].Pairwise (·.severity < ·.severity) ∧
    ∀ step,
      ((empty failFast).after steps).Logs
        (((empty failFast).after steps).perform { threshold := .debug, written := [] } step)
        step := by
  refine ⟨?_, ?_, by decide, ?_⟩
  · intro left right
    rw [session_eq_map_run, session_eq_map_run]
    simp only [List.map_map]
    exact ⟨rfl, rfl⟩
  · intro threshold
    rw [session_eq_map_run, session_eq_map_run, List.map_map, List.map_map]
    apply List.map_congr_left
    intro turn _
    change Log.keep threshold turn.events = (Log.keep .debug turn.events).filter _
    rw [Log.keep_debug, Log.keep_eq_filter]
  · intro step
    apply logs_perform

end Registry

end Mediation

import Mediation.Registry.Run

/-!
This module contains the use of a registry that writes to a logger while it goes. What a pass finds
is logged before the next declaration is visited.
-/

namespace Mediation.Registry

/--
What a step against a logger leads to.
-/
structure Performance where
  registry : Registry
  answer : Except Fault Answer
  logger : Log.Logger

/--
Classify declarations one after the other and log each of them before the next one is visited. What
has been found so far is carried along.
-/
def visit (failFast : Bool) (report : Report) (logger : Log.Logger) :
    List Declaration → Report × Log.Logger
  | [] => (report, logger)
  | declaration :: declarations =>
    match declaration.classify with
    | .error rejection =>
      let report := { report with rejections := report.rejections ++ [rejection] }
      let logger := logger.log (.failed rejection)
      if failFast then (report, logger) else visit failFast report logger declarations
    | .ok configuration =>
      let report := { report with configurations := report.configurations ++ [configuration] }
      visit failFast report (logger.log (.classified configuration)) declarations

def performPass (registry : Registry) (logger : Log.Logger) : Report × Log.Logger :=
  visit registry.failFast { configurations := [], rejections := [] } logger registry.declarations

def performRegister (registry : Registry) (logger : Log.Logger) (declaration : Declaration) :
    Performance :=
  match registry.register declaration with
  | .ok next =>
    { registry := next, answer := .ok .done, logger := logger.log (.registered declaration) }
  | .error fault => { registry, answer := .error fault, logger }

def performRegisterAll (registry : Registry) (logger : Log.Logger) :
    List Declaration → Performance
  | [] => { registry, answer := .ok .done, logger }
  | declaration :: declarations =>
    let performance := registry.performRegister logger declaration
    match performance.answer with
    | .ok _ => performance.registry.performRegisterAll performance.logger declarations
    | .error _ => performance

def perform (registry : Registry) (logger : Log.Logger) : Step → Performance
  | .register declaration => registry.performRegister logger declaration
  | .importManifest input =>
    match Metadata.parseManifest input with
    | .ok declarations => registry.performRegisterAll logger declarations
    | .error fault => { registry, answer := .error fault, logger }
  | .compute =>
    let (report, logger) := registry.performPass logger
    {
      registry := { registry with configurations := report.configurations }
      answer := .ok (.report report)
      logger
    }
  | .build =>
    let (report, logger) := registry.performPass logger
    let registry := { registry with configurations := report.configurations }
    match report.rejections with
    | [] =>
      {
        registry
        answer := .ok (.configurations report.configurations)
        logger := logger.log (.configured report.configurations.length)
      }
    | rejections => { registry, answer := .error (.unconfigured rejections), logger }
  | .has identity => { registry, answer := .ok (.registered (registry.has identity)), logger }
  | .get identity => { registry, answer := .ok (.configuration (registry.get? identity)), logger }
  | .list => { registry, answer := .ok (.declarations registry.declarations), logger }

/--
What a caller sees of a step: its answer, the identities that are registered after it, and what it
has written to its logger.
-/
structure Shown where
  answer : Except Fault Answer
  identities : List String
  records : List Log.Event

/--
Take steps one after the other, each against an empty logger of the same threshold.
-/
def session (registry : Registry) (threshold : Log.Level) : List Step → List Shown
  | [] => []
  | step :: steps =>
    let performance := registry.perform { threshold, written := [] } step
    {
      answer := performance.answer
      identities := performance.registry.identities
      records := performance.logger.written
    } :: performance.registry.session threshold steps

end Mediation.Registry

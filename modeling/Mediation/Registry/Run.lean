import Mediation.Log.Event
import Mediation.Metadata.Manifest
import Mediation.Registry.Pass

/-!
This module contains the use of a registry step by step: what each step answers, which state it
leaves behind and which events it logs.
-/

namespace Mediation.Registry

inductive Step where
  | register (declaration : Declaration)
  | importManifest (input : Option Json)
  | compute
  /-- Run a pass that has to succeed for every declaration. -/
  | build
  | has (identity : String)
  | get (identity : String)
  | list

inductive Answer where
  | done
  | report (report : Report)
  | configurations (configurations : List Configuration)
  | registered (registered : Bool)
  | configuration (configuration? : Option Configuration)
  | declarations (declarations : List Declaration)

structure Turn where
  registry : Registry
  answer : Except Fault Answer
  events : List Log.Event

def outcomeEvent : Except Rejection Configuration → Log.Event
  | .ok configuration => .classified configuration
  | .error rejection => .failed rejection

/--
A step at fault leaves the registry unchanged, apart from what a manifest has registered before its
entry at fault and from the configurations that a pass has left.
-/
def step (registry : Registry) : Step → Turn
  | .register declaration =>
    match registry.register declaration with
    | .ok registry => { registry, answer := .ok .done, events := [.registered declaration] }
    | .error fault => { registry, answer := .error fault, events := [] }
  | .importManifest input =>
    match Metadata.parseManifest input with
    | .ok declarations =>
      let result := registry.registerAll declarations
      {
        registry := result.registry
        answer := result.fault?.elim (.ok .done) .error
        events := result.accepted.map .registered
      }
    | .error fault => { registry, answer := .error fault, events := [] }
  | .compute =>
    {
      registry := registry.afterPass
      answer := .ok (.report registry.report)
      events := registry.outcomes.map outcomeEvent
    }
  | .build =>
    let events := registry.outcomes.map outcomeEvent
    match registry.report.complete with
    | .ok configurations =>
      {
        registry := registry.afterPass
        answer := .ok (.configurations configurations)
        events := events ++ [.configured configurations.length]
      }
    | .error fault => { registry := registry.afterPass, answer := .error fault, events }
  | .has identity =>
    { registry, answer := .ok (.registered (registry.has identity)), events := [] }
  | .get identity =>
    { registry, answer := .ok (.configuration (registry.get? identity)), events := [] }
  | .list => { registry, answer := .ok (.declarations registry.declarations), events := [] }

/--
Take steps one after the other, each on the registry that the one before it has left.
-/
def run (registry : Registry) : List Step → List Turn
  | [] => []
  | step :: steps =>
    let turn := registry.step step
    turn :: turn.registry.run steps

def Turn.records (turn : Turn) (threshold : Log.Level) : List Log.Event :=
  Log.keep threshold turn.events

end Mediation.Registry

import Mediation.Classification
import Mediation.Json
import Mediation.Log.Level

/-!
This module contains the events that a registry logs, the records that they are logged as, and the
loggers that decide which of them are written.
-/

namespace Mediation.Log

inductive Event where
  | registered (declaration : Declaration)
  | failed (rejection : Rejection)
  | classified (configuration : Configuration)
  | configured (total : Nat)

namespace Event

def level : Event → Level
  | registered _ => .debug
  | failed _ => .error
  | classified _ => .debug
  | configured _ => .info

def message : Event → String
  | registered _ => "Registered mediator"
  | failed _ => "Mediator configuration failed"
  | classified _ => "Classified mediator"
  | configured _ => "Mediators configured"

/--
What a record tells beside its message. The channel of a side that is not bound is left out.
-/
def fields : Event → List (String × Json)
  | registered declaration =>
    ("identity", .string declaration.identity) ::
      Side.all.filterMap fun side =>
        (declaration.binding? side).map fun binding => (side.name, .string binding.channel)
  | failed rejection =>
    [("identity", .string rejection.identity), ("code", .string rejection.code.name),
      ("reason", .string rejection.reason)]
  | classified configuration =>
    [("identity", .string configuration.identity), ("shape", .string configuration.shape.name),
      ("production", .string configuration.production.name),
      ("consumption", .string configuration.consumption.name)]
  | configured total => [("total", .count total)]

def toJson (event : Event) : Json :=
  .object <|
    ("level", .string event.level.name) :: ("msg", .string event.message) :: event.fields

end Event

/--
What has been written so far, and the threshold below which nothing is written.
-/
structure Logger where
  threshold : Level
  written : List Event

def Logger.log (logger : Logger) (event : Event) : Logger :=
  if logger.threshold.severity ≤ event.level.severity then
    { logger with written := logger.written ++ [event] }
  else
    logger

def keep (threshold : Level) (events : List Event) : List Event :=
  events.filter fun event => threshold.keeps event.level

end Mediation.Log

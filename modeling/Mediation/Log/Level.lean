/-!
This module contains the severity levels of log records, and which records a threshold keeps.
-/

namespace Mediation.Log

/--
The levels, from the least to the most severe. No record has the silent level, which serves as the
threshold that drops every record.
-/
inductive Level where
  | trace
  | debug
  | info
  | warn
  | error
  | fatal
  | silent
  deriving DecidableEq

namespace Level

def all : List Level :=
  [.trace, .debug, .info, .warn, .error, .fatal, .silent]

def name : Level → String
  | .trace => "trace"
  | .debug => "debug"
  | .info => "info"
  | .warn => "warn"
  | .error => "error"
  | .fatal => "fatal"
  | .silent => "silent"

def ofName? (name : String) : Option Level :=
  all.find? (·.name == name)

@[simp]
theorem ofName?_name (level : Level) : ofName? level.name = some level := by
  cases level <;> decide

def severity : Level → Nat
  | .trace => 0
  | .debug => 1
  | .info => 2
  | .warn => 3
  | .error => 4
  | .fatal => 5
  | .silent => 6

def keeps (threshold level : Level) : Bool :=
  level ≠ .silent ∧ threshold.severity ≤ level.severity

def kept (threshold : Level) : List Level :=
  all.filter threshold.keeps

end Level

end Mediation.Log

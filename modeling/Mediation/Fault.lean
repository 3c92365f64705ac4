import Mediation.Descriptor.Construction
import Mediation.Rejection

/-!
This module contains the faults that declaring and configuring mediators can end in, and the codes
under which they are reported.
-/

namespace Mediation

/--
A complaint about the part of a value that lies at a path. The empty path means the whole value.
-/
structure Issue where
  path : String
  message : String
  deriving DecidableEq

namespace Issue

def format (issue : Issue) : String :=
  if issue.path = "" then issue.message else issue.path ++ ": " ++ issue.message

def toJson (issue : Issue) : Json :=
  .texts [("path", issue.path), ("message", issue.message)]

end Issue

/--
The codes of all faults that the library itself raises.
-/
inductive Fault.Code where
  | classification (code : Rejection.Code)
  | notAMediator
  | alreadyRegistered
  | invalidDescriptor
  | configurationFailed
  deriving DecidableEq

namespace Fault.Code

def all : List Code :=
  Rejection.Code.all.map .classification ++
    [.notAMediator, .alreadyRegistered, .invalidDescriptor, .configurationFailed]

def name : Code → String
  | .classification code => code.name
  | .notAMediator => "NOT_A_MEDIATOR"
  | .alreadyRegistered => "ALREADY_REGISTERED"
  | .invalidDescriptor => "INVALID_DESCRIPTOR"
  | .configurationFailed => "CONFIGURATION_FAILED"

def summary : Code → String
  | .classification code => code.summary
  | .notAMediator => "Not a mediator"
  | .alreadyRegistered => "Already registered"
  | .invalidDescriptor => "Invalid descriptor"
  | .configurationFailed => "Mediator configuration failed"

def ofName? (name : String) : Option Code :=
  all.find? (·.name == name)

@[simp]
theorem ofName?_name (code : Code) : ofName? code.name = some code := by
  cases code with
  | classification code => cases code <;> decide
  | _ => decide

/--
Whether a name is the code of a classification failure.
-/
def isClassification (name : String) : Bool :=
  (Rejection.Code.ofName? name).isSome

/--
The summary of the code of a given name. An unknown code has only its name to tell.
-/
def summaryOf (name : String) : String :=
  (ofName? name).elim name summary

end Fault.Code

/--
The complaint about a side that is bound to a channel with a blank name.
-/
def Side.blankIssue (side : Side) : Issue :=
  ⟨side.name ++ ".channel", "channel name must not be empty"⟩

inductive Fault where
  | notAMediator (identity : String)
  | alreadyRegistered (identity : String)
  /-- A value that does not describe what it is meant to describe. -/
  | invalid (subject : String) (issues : List Issue)
  | rejected (rejection : Rejection)
  /-- A pass that some declarations did not get through. -/
  | unconfigured (rejections : List Rejection)
  /-- A fault that a caller reports under a code of its own. -/
  | custom (code message : String) (details : Option Json)

namespace Fault

/--
The fault of omitting a type argument before a declared one.
-/
def ofGap (gap : Descriptor.Gap) : Fault :=
  .invalid ("type arguments of " ++ gap.name)
    [⟨toString gap.index, "omitted before a declared type argument"⟩]

/--
The fault of binding a declaration to channels with a blank name.
-/
def blankChannels (identity : String) (sides : List Side) : Fault :=
  .invalid ("bindings of " ++ identity) (sides.map Side.blankIssue)

/--
The name of the class of errors that a fault is raised as.
-/
def className : Fault → String
  | rejected _ => "ConfigurationError"
  | unconfigured _ => "AggregateConfigurationError"
  | notAMediator _ | alreadyRegistered _ | invalid _ _ | custom _ _ _ => "SwitchyardError"

def code : Fault → String
  | notAMediator _ => Code.notAMediator.name
  | alreadyRegistered _ => Code.alreadyRegistered.name
  | invalid _ _ => Code.invalidDescriptor.name
  | rejected rejection => rejection.code.name
  | unconfigured _ => Code.configurationFailed.name
  | custom code _ _ => code

/--
The first line of the message of a pass that failed.
-/
def header (count : Nat) : String :=
  toString count ++ " mediator(s) failed configuration:"

def message : Fault → String
  | notAMediator identity => identity ++ " declares neither an incoming nor an outgoing channel"
  | alreadyRegistered identity => "Mediator '" ++ identity ++ "' already registered"
  | invalid subject issues => "Invalid " ++ subject ++ ": " ++ "; ".intercalate (issues.map Issue.format)
  | rejected rejection => rejection.message
  | unconfigured rejections =>
    "\n".intercalate (header rejections.length :: rejections.map Rejection.line)
  | custom _ message _ => message

theorem message_invalid_singleton {subject : String} {issue : Issue} (h : issue.path ≠ "") :
    (invalid subject [issue]).message =
      "Invalid " ++ subject ++ ": " ++ issue.path ++ ": " ++ issue.message := by
  simp [message, Issue.format, h, String.append_assoc]

/--
What a fault reports beside its message. The faults of one pass are reported in full.
-/
def details : Fault → Option Json
  | notAMediator identity | alreadyRegistered identity => some (.texts [("identity", identity)])
  | invalid _ issues => some (.object [("issues", .array (issues.map Issue.toJson))])
  | rejected rejection => some rejection.details
  | unconfigured rejections => some (.object [("errors", .array (rejections.map entry))])
  | custom _ _ details => details
where
  entry (rejection : Rejection) : Json :=
    .object
      [("code", .string rejection.code.name), ("message", .string rejection.message),
        ("details", rejection.details)]

end Fault

end Mediation

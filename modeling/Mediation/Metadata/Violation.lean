import Mediation.Fault

/-!
This module contains the ways in which metadata can violate the grammar of its schema, each at the
position where it happens.
-/

namespace Mediation.Metadata

/--
One step from a value to a value inside it.
-/
inductive Segment where
  | field (key : String)
  | index (position : Nat)
  deriving DecidableEq

def Segment.format : Segment → String
  | .field key => key
  | .index position => toString position

def Segment.toJson : Segment → Json
  | .field key => .string key
  | .index position => .count position

abbrev Path := List Segment

def Path.format (path : Path) : String :=
  ".".intercalate (path.map Segment.format)

/--
What a schema can expect at a position.
-/
inductive Expected where
  | string
  | array
  | object
  | kind
  deriving DecidableEq

/--
How a message names what was expected. The kinds are listed in quotes.
-/
def Expected.label : Expected → String
  | .string => "string"
  | .array => "array"
  | .object => "object"
  | .kind => " | ".intercalate (Kind.all.map fun kind => "'" ++ kind.name ++ "'")

/--
The requirements that a position has by itself, whatever lies inside it.
-/
inductive Cause where
  /-- Nothing is written where a value is required. -/
  | missing
  /-- A value of another JSON type is written. -/
  | mismatch (expected : Expected) (received : Json.Tag)
  /-- A text is written that names no kind. -/
  | unknownKind (written : String)
  /-- An empty text is written for a name or an identity. -/
  | emptyText
  /-- A blank text is written for a channel. -/
  | blankChannel
  deriving DecidableEq

def Cause.message : Cause → String
  | .missing => "Required"
  | .mismatch expected received => "Expected " ++ expected.label ++ ", received " ++ received.name
  | .unknownKind written =>
    "Invalid enum value. Expected " ++ Expected.kind.label ++ ", received '" ++ written ++ "'"
  | .emptyText => "String must contain at least 1 character(s)"
  | .blankChannel => "channel name must not be empty"

/--
A requirement that is violated at a position.
-/
structure Violation where
  path : Path
  cause : Cause
  deriving DecidableEq

namespace Violation

/--
Read the position from one step further out.
-/
def under (segment : Segment) (violation : Violation) : Violation :=
  { violation with path := segment :: violation.path }

def toIssue (violation : Violation) : Issue :=
  { path := violation.path.format, message := violation.cause.message }

end Violation

end Mediation.Metadata

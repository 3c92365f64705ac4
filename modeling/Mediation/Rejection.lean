import Mediation.Declaration
import Mediation.Json

/-!
This module contains the report on a mediator whose signature matches no supported pattern.
-/

namespace Mediation

/--
The classes of mistake that a signature can make.
-/
inductive Rejection.Code where
  | arityMismatch
  | missingTypeArgument
  | voidReturn
  | unsupportedSignature
  deriving DecidableEq

/--
Why a signature was rejected, where it is bound and how it is declared. Without a declaration the
identity stands for it.
-/
structure Rejection where
  code : Rejection.Code
  context : Context
  identity : String
  reason : String
  declaration : String := identity
  deriving DecidableEq

namespace Rejection

namespace Code

def all : List Code :=
  [.arityMismatch, .missingTypeArgument, .voidReturn, .unsupportedSignature]

def name : Code → String
  | .arityMismatch => "ARITY_MISMATCH"
  | .missingTypeArgument => "MISSING_TYPE_ARGUMENT"
  | .voidReturn => "VOID_RETURN"
  | .unsupportedSignature => "UNSUPPORTED_SIGNATURE"

def ofName? (name : String) : Option Code :=
  all.find? (·.name == name)

theorem name_inj {code other : Code} : code.name = other.name ↔ code = other := by
  cases code <;> cases other <;> simp [name]

def summary : Code → String
  | .arityMismatch => "Unexpected number of parameters"
  | .missingTypeArgument => "Missing type argument"
  | .voidReturn => "Void return"
  | .unsupportedSignature => "Unsupported signature"

end Code

def ofSignature (code : Code) (context : Context) (signature : Signature) (reason : String) :
    Rejection :=
  { code, context, identity := signature.identity, reason, declaration := signature.format }

def message (rejection : Rejection) : String :=
  "Invalid mediator bound to " ++ rejection.context.label ++ ": " ++ rejection.declaration ++ " - " ++
    rejection.reason

/--
What the message of a pass that failed says about one of its rejections.
-/
def line (rejection : Rejection) : String :=
  "  - " ++ rejection.identity ++ ": " ++ rejection.reason

def details (rejection : Rejection) : Json :=
  .texts [("context", rejection.context.name), ("identity", rejection.identity),
    ("declaration", rejection.declaration), ("reason", rejection.reason)]

end Rejection

end Mediation

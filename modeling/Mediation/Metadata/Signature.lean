import Mediation.Metadata.Type
import Mediation.Signature

/-!
This module contains signatures as metadata writes them: an object with an identity, a return type
and possibly an array of parameter types.
-/

namespace Mediation.Metadata

/--
A signature as it is written. Parameters that are left out are read as none.
-/
structure WrittenSignature where
  identity : String
  returns : WrittenType
  parameters : List WrittenType

namespace WrittenSignature

def read : Json → Checked WrittenSignature
  | .object fields =>
    WrittenSignature.mk <$> field fields "identity" (required readNonemptyText)
      <*> field fields "returns" (required WrittenType.read)
      <*> (·.getD []) <$> field fields "parameters" (optional (readEach WrittenType.read))
  | value => .violating (.mismatch .object value.tag)

/--
Write a signature the way it was read, with its parameters even if there are none.
-/
def toJson (signature : WrittenSignature) : Json :=
  .object
    [("identity", .string signature.identity), ("returns", signature.returns.toJson),
      ("parameters", .array (signature.parameters.map WrittenType.toJson))]

def toSignature (signature : WrittenSignature) : Signature :=
  {
    identity := signature.identity
    returns := signature.returns.toDescriptor
    parameters := signature.parameters.map WrittenType.toDescriptor
  }

def build (signature : WrittenSignature) : Except Descriptor.Gap Signature := do
  let returns ← signature.returns.build
  let parameters ← WrittenType.buildEach signature.parameters
  return { identity := signature.identity, returns, parameters }

theorem build_eq_toSignature (signature : WrittenSignature) :
    signature.build = .ok signature.toSignature := by
  unfold build toSignature
  rw [WrittenType.build_eq_toDescriptor, WrittenType.buildEach_eq_toDescriptors,
    WrittenType.toDescriptors_eq_map]
  rfl

end WrittenSignature

def parseSignature (input : Option Json) : Except Fault Signature :=
  construct WrittenSignature.build <| (required WrittenSignature.read input).orFault "signature"

end Mediation.Metadata

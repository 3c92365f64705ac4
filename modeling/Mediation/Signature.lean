import Mediation.Descriptor.Format

/-!
This module contains mediator signatures: the declared types of a method together with the identity
under which messages speak of it.
-/

namespace Mediation

/--
The declaration of a method, as far as it can be classified.
-/
structure Signature where
  identity : String
  returns : Descriptor
  parameters : List Descriptor

namespace Signature

/--
The conventional identity of a method of an owner.
-/
def identityOf (owner method : String) : String :=
  owner ++ "#" ++ method

/--
Write a signature the way it is declared: the return type, the identity and the parameters in
parentheses.
-/
def format (signature : Signature) : String :=
  signature.returns.format ++ " " ++ signature.identity ++
    "(" ++ ", ".intercalate (Descriptor.formatEach signature.parameters) ++ ")"

/--
Whether the method as a whole maps a stream to a stream, judged by its first parameter.
-/
def mapsStreams (signature : Signature) : Bool :=
  signature.returns.kind.isStream && signature.parameters.head?.any (·.kind.isStream)

end Signature

end Mediation

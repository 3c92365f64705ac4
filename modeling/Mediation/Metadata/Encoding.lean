import Mediation.Metadata.Manifest

/-!
This module contains the writing of declarations as metadata. Everything that has a default is
written out, so that nothing depends on the defaults when it is read.
-/

namespace Mediation

namespace Descriptor

mutual

def toJson : Descriptor → Json
  | ⟨kind, name, arguments⟩ =>
    .object
      [("kind", .string kind.name), ("name", .string name),
        ("typeArguments", .array (eachToJson arguments))]

def eachToJson : List Descriptor → List Json
  | [] => []
  | type :: types => type.toJson :: eachToJson types

end

theorem eachToJson_eq_map (types : List Descriptor) : eachToJson types = types.map toJson := by
  induction types with
  | nil => rfl
  | cons type types ih => simp [eachToJson, ih]

end Descriptor

def Signature.toJson (signature : Signature) : Json :=
  .object
    [("identity", .string signature.identity), ("returns", signature.returns.toJson),
      ("parameters", .array (Descriptor.eachToJson signature.parameters))]

/--
Write a declaration as an entry of a manifest, with null on a side that is not bound.
-/
def Declaration.toJson (declaration : Declaration) : Json :=
  .object
    [("signature", declaration.signature.toJson),
      ("incoming", declaration.incoming.elim .null Binding.toJson),
      ("outgoing", declaration.outgoing.elim .null Binding.toJson)]

def Metadata.encode (declarations : List Declaration) : Json :=
  .array (declarations.map Declaration.toJson)

end Mediation

import Mediation.Declaration
import Mediation.Metadata.Signature

/-!
This module contains manifests: arrays of signatures with the channels that they are bound to.
-/

namespace Mediation.Metadata

/--
Read the name of a channel. The blanks around it are left out before its length is checked.
-/
def readChannel : Json → Checked String
  | .string text => atLeastOne .blankChannel (Text.trim text)
  | value => .violating (.mismatch .string value.tag)

/--
Nothing is left of a text without the blanks around it exactly if all of it is blank, which is what
a registry checks.
-/
theorem readChannel_string (text : String) :
    readChannel (.string text) =
      if Text.isBlankText text then .violating .blankChannel else pure (Text.trim text) := by
  rw [readChannel, atLeastOne_eq_ite]
  simp only [Text.isBlankText, beq_iff_eq]

theorem readChannel_eq_valid_iff {value : Json} {channel : String} :
    readChannel value = .valid channel ↔
      ∃ text, value = .string text ∧ Text.isBlankText text = false ∧ Text.trim text = channel := by
  cases value with
  | string text => cases h : Text.isBlankText text <;> simp [readChannel_string, h]
  | _ => simp [readChannel]

/--
Read a binding: an object with a channel and possibly a provider.
-/
def readBinding : Json → Checked Binding
  | .object fields =>
    Binding.mk <$> field fields "channel" (required readChannel)
      <*> field fields "provider" (optional readText)
  | value => .violating (.mismatch .object value.tag)

def parseBinding (input : Option Json) : Except Fault Binding :=
  (required readBinding input).orFault "channel binding"

inductive WrittenBinding where
  | absent
  | null
  | given (binding : Binding)

namespace WrittenBinding

def read : Option Json → Checked WrittenBinding
  | none => pure .absent
  | some .null => pure .null
  | some value => .given <$> readBinding value

theorem read_some_of_ne_null {value : Json} (h : value ≠ .null) :
    read (some value) = given <$> readBinding value := by
  cases value with
  | null => exact absurd rfl h
  | _ => rfl

/--
Write a side the way it was read, if it was written at all.
-/
def toJson? : WrittenBinding → Option Json
  | absent => none
  | null => some .null
  | given binding => some binding.toJson

def toBinding? : WrittenBinding → Option Binding
  | absent | null => none
  | given binding => some binding

end WrittenBinding

structure Entry where
  signature : WrittenSignature
  incoming : WrittenBinding
  outgoing : WrittenBinding

namespace Entry

def read : Json → Checked Entry
  | .object fields =>
    Entry.mk <$> field fields "signature" (required WrittenSignature.read)
      <*> field fields "incoming" WrittenBinding.read
      <*> field fields "outgoing" WrittenBinding.read
  | value => .violating (.mismatch .object value.tag)

def toJson (entry : Entry) : Json :=
  .record
    [("signature", some entry.signature.toJson), ("incoming", entry.incoming.toJson?),
      ("outgoing", entry.outgoing.toJson?)]

def toDeclaration (entry : Entry) : Declaration :=
  {
    signature := entry.signature.toSignature
    incoming := entry.incoming.toBinding?
    outgoing := entry.outgoing.toBinding?
  }

def build (entry : Entry) : Except Descriptor.Gap Declaration := do
  let signature ← entry.signature.build
  return { signature, incoming := entry.incoming.toBinding?, outgoing := entry.outgoing.toBinding? }

theorem build_eq_toDeclaration (entry : Entry) : entry.build = .ok entry.toDeclaration := by
  unfold build
  rw [WrittenSignature.build_eq_toSignature]
  rfl

end Entry

abbrev Manifest := List Entry

namespace Manifest

def read : Json → Checked Manifest :=
  readEach Entry.read

def toJson (manifest : Manifest) : Json :=
  .array (manifest.map Entry.toJson)

def toDeclarations (manifest : Manifest) : List Declaration :=
  manifest.map Entry.toDeclaration

def build (manifest : Manifest) : Except Descriptor.Gap (List Declaration) :=
  manifest.mapM Entry.build

theorem build_eq_toDeclarations (manifest : Manifest) :
    manifest.build = .ok manifest.toDeclarations := by
  unfold build toDeclarations
  induction manifest with
  | nil => rfl
  | cons entry entries ih =>
    rw [List.mapM_cons, Entry.build_eq_toDeclaration, ih]
    rfl

end Manifest

def parseManifest (input : Option Json) : Except Fault (List Declaration) :=
  construct Manifest.build <| (required Manifest.read input).orFault "manifest"

end Mediation.Metadata

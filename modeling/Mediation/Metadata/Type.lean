import Mediation.Metadata.Checked

/-!
This module contains types as metadata writes them: an object with the name of a kind, and possibly
a display name and an array of type arguments. Fields of any other key are ignored.
-/

namespace Mediation.Metadata

/--
A type as it is written. What may be left out is kept apart from its default.
-/
structure WrittenType where
  kind : Kind
  name : Option String
  arguments : Option (List WrittenType)

def readKind : Json → Checked Kind
  | .string text =>
    match Kind.ofName? text with
    | some kind => pure kind
    | none => .violating (.unknownKind text)
  | value => .violating (.mismatch .kind value.tag)

theorem readKind_eq_valid_iff {value : Json} {kind : Kind} :
    readKind value = .valid kind ↔ value = .string kind.name := by
  cases value with
  | string text =>
    rw [Json.string.injEq, ← Kind.ofName?_eq_some_iff]
    simp only [readKind]
    cases Kind.ofName? text <;> simp
  | _ => simp [readKind]

namespace WrittenType

mutual

def read : Json → Checked WrittenType
  | .object fields =>
    WrittenType.mk <$> field fields "kind" (required readKind)
      <*> field fields "name" (optional readNonemptyText)
      <*> readArguments fields
  | value => .violating (.mismatch .object value.tag)

def readArguments : List (String × Json) → Checked (Option (List WrittenType))
  | [] => pure none
  | (key, value) :: fields =>
    if key = "typeArguments" then
      (some <$> readList value).under (.field key)
    else
      readArguments fields

def readList : Json → Checked (List WrittenType)
  | .array values => readFrom 0 values
  | value => .violating (.mismatch .array value.tag)

def readFrom (position : Nat) : List Json → Checked (List WrittenType)
  | [] => pure []
  | value :: values =>
    List.cons <$> (read value).under (.index position) <*> readFrom (position + 1) values

end

theorem readFrom_eq (position : Nat) (values : List Json) :
    readFrom position values = readEachFrom position read values := by
  induction values generalizing position with
  | nil => rfl
  | cons value values ih => simp [readFrom, readEachFrom, ih]

theorem readList_eq (value : Json) : readList value = readEach read value := by
  cases value <;> simp [readList, readEach, readFrom_eq]

theorem readArguments_eq (fields : List (String × Json)) :
    readArguments fields = field fields "typeArguments" (optional (readEach read)) := by
  induction fields with
  | nil => rfl
  | cons entry fields ih =>
    obtain ⟨key, value⟩ := entry
    by_cases h : key = "typeArguments"
    · simp [readArguments, field, h, optional, readList_eq]
    · have : ("typeArguments" == key) = false := by simp [Ne.symm h]
      simp [readArguments, h, ih, field, List.lookup_cons, this]

/--
What holds of a value as soon as it holds of all that is written as its type arguments holds of
every value.
-/
theorem induction_on_arguments {motive : Json → Prop}
    (h :
      ∀ value,
        (∀ fields values,
          value = .object fields → fields.lookup "typeArguments" = some (.array values) →
            ∀ argument ∈ values, motive argument) →
        motive value)
    (value : Json) : motive value := by
  apply h
  intro fields values heq hlookup argument hmem
  have hsize : sizeOf argument < sizeOf value := by
    rw [heq]
    exact Nat.lt_trans (Json.sizeOf_lt_of_mem_array hmem) (Json.sizeOf_lt_of_lookup hlookup)
  exact induction_on_arguments h argument
termination_by sizeOf value
decreasing_by exact hsize

mutual

def toJson : WrittenType → Json
  | ⟨kind, name, arguments⟩ =>
    .record
      [("kind", some (.string kind.name)), ("name", name.map .string),
        ("typeArguments", argumentsToJson arguments)]

def argumentsToJson : Option (List WrittenType) → Option Json
  | none => none
  | some types => some (.array (eachToJson types))

def eachToJson : List WrittenType → List Json
  | [] => []
  | type :: types => type.toJson :: eachToJson types

end

mutual

/--
The type that is described, with the default name of its kind unless another is written.
-/
def toDescriptor : WrittenType → Descriptor
  | ⟨kind, name, arguments⟩ =>
    { kind, name := name.getD kind.defaultName, arguments := argumentsToDescriptors arguments }

def argumentsToDescriptors : Option (List WrittenType) → List Descriptor
  | none => []
  | some types => toDescriptors types

def toDescriptors : List WrittenType → List Descriptor
  | [] => []
  | type :: types => type.toDescriptor :: toDescriptors types

end

theorem toDescriptors_eq_map (types : List WrittenType) :
    toDescriptors types = types.map toDescriptor := by
  induction types with
  | nil => rfl
  | cons type types ih => simp [toDescriptors, ih]

mutual

/--
Construct the type that is described, its arguments first. No argument can be omitted in what is
written.
-/
def build : WrittenType → Except Descriptor.Gap Descriptor
  | ⟨kind, name, arguments⟩ => do
    let arguments ← buildArguments arguments
    Descriptor.named kind (name.getD kind.defaultName) (arguments.map some)

def buildArguments : Option (List WrittenType) → Except Descriptor.Gap (List Descriptor)
  | none => return []
  | some types => buildEach types

def buildEach : List WrittenType → Except Descriptor.Gap (List Descriptor)
  | [] => return []
  | type :: types => do
    let first ← type.build
    let rest ← buildEach types
    return first :: rest

end

mutual

/--
What is written can always be constructed.
-/
theorem build_eq_toDescriptor (type : WrittenType) : type.build = .ok type.toDescriptor := by
  obtain ⟨kind, name, arguments⟩ := type
  rw [build, buildArguments_eq_argumentsToDescriptors arguments, toDescriptor]
  apply Descriptor.named_map_some

theorem buildArguments_eq_argumentsToDescriptors (arguments : Option (List WrittenType)) :
    buildArguments arguments = .ok (argumentsToDescriptors arguments) := by
  cases arguments with
  | none => rfl
  | some types => exact buildEach_eq_toDescriptors types

theorem buildEach_eq_toDescriptors (types : List WrittenType) :
    buildEach types = .ok (toDescriptors types) := by
  cases types with
  | nil => rfl
  | cons type types =>
    rw [buildEach, build_eq_toDescriptor type, buildEach_eq_toDescriptors types]
    rfl

end

end WrittenType

/--
Construct what was read, with a gap among its type arguments as a fault.
-/
def construct (build : α → Except Descriptor.Gap β) (written : Except Fault α) :
    Except Fault β := do
  (build (← written)).mapError Fault.ofGap

theorem construct_eq_map {build : α → Except Descriptor.Gap β} {f : α → β}
    (h : ∀ value, build value = .ok (f value)) (written : Except Fault α) :
    construct build written = f <$> written := by
  cases written with
  | ok value =>
    change (build value).mapError Fault.ofGap = .ok (f value)
    rw [h]
    rfl
  | error fault => rfl

def parseType (input : Option Json) : Except Fault Descriptor :=
  construct WrittenType.build <| (required WrittenType.read input).orFault "type descriptor"

end Mediation.Metadata

import Mediation.Fault
import Mediation.Proofs.Classification.Widening

/-!
This module contains what the code of a rejection says about the part of a signature that is at
fault: which changes to the signature leave the rejection as it is, and which one removes it.
-/

namespace Mediation

/--
The number of parameters that a requirement asks for, if it is one about them.
-/
def Mismatch.parameterCount? : Mismatch → Option Nat
  | oneParameterExpected | asyncTakesOneParameter | unsupported => some 1
  | processorTakesNoParameters | publisherTakesNoParameters | subscriberTakesNoParameters => some 0
  | _ => none

theorem Mismatch.isSome_parameterCount?_iff (mismatch : Mismatch) :
    mismatch.parameterCount?.isSome ↔
      mismatch.code = .arityMismatch ∨ mismatch.code = .unsupportedSignature := by
  cases mismatch <;> decide

namespace Kind

/--
The number of parameters that a shape asks of the methods that return a type of some kind.
-/
def parameterCount (kind : Kind) : Shape → Nat
  | .publisher => 0
  | .subscriber => if kind ∈ sinks then 0 else 1
  | .processor => if kind ∈ processors then 0 else 1
  | .streamTransformer => 1

theorem parameterCount_le_one (kind : Kind) (shape : Shape) : kind.parameterCount shape ≤ 1 := by
  cases kind <;> cases shape <;> decide

/--
The requirements of a shape never ask for different numbers of parameters.
-/
theorem parameterCount?_of_mem_requirements {kind : Kind} {shape : Shape} {mismatch : Mismatch}
    (hmem : mismatch ∈ kind.requirements shape) (h : mismatch.parameterCount?.isSome) :
    mismatch.parameterCount? = some (kind.parameterCount shape) := by
  have hall :
      ∀ mismatch ∈ kind.requirements shape, mismatch.parameterCount?.isSome →
        mismatch.parameterCount? = some (kind.parameterCount shape) := by
    cases kind <;> cases shape <;> decide
  exact hall mismatch hmem h

theorem shape_of_voidReturn_mem {kind : Kind} {shape : Shape}
    (h : .voidReturn ∈ kind.requirements shape) : shape = .publisher := by
  revert h
  cases kind <;> cases shape <;> decide

end Kind

structure Descriptor.SameOutline (left right : Descriptor) : Prop where
  kind : left.kind = right.kind
  length : left.arguments.length = right.arguments.length

structure Signature.SameOutline (left right : Signature) : Prop where
  returns : left.returns.SameOutline right.returns
  parameters : List.Forall₂ Descriptor.SameOutline left.parameters right.parameters

def Descriptor.padded (type : Descriptor) : Descriptor :=
  { type with arguments := type.arguments ++ [.payload, .payload] }

def Signature.padded (signature : Signature) : Signature :=
  { signature with
    returns := signature.returns.padded
    parameters := signature.parameters.map Descriptor.padded }

theorem Descriptor.SameOutline.symm {left right : Descriptor} (h : left.SameOutline right) :
    right.SameOutline left :=
  ⟨h.kind.symm, h.length.symm⟩

theorem Descriptor.SameOutline.alike {left right : Descriptor} (h : left.SameOutline right) :
    left.Alike DeclaresToo right := by
  have hdeclares (index : Nat) : DeclaresToo left.arguments[index]? right.arguments[index]? := by
    unfold DeclaresToo
    rw [List.getElem?_eq_none_iff, List.getElem?_eq_none_iff, h.length]
    exact id
  exact ⟨h.kind, hdeclares 0, hdeclares 1⟩

theorem Descriptor.two_le_length_padded (type : Descriptor) :
    2 ≤ type.padded.arguments.length := by
  simp [padded]

namespace Signature

variable {signature left right : Signature} {mismatch : Mismatch}

theorem SameOutline.symm (h : left.SameOutline right) : right.SameOutline left := by
  constructor
  · exact h.returns.symm
  · apply List.Forall₂.flip
    exact h.parameters.imp fun _ _ => Descriptor.SameOutline.symm

theorem SameOutline.alike (h : left.SameOutline right) : left.Alike DeclaresToo right :=
  .of_forall₂ h.returns.alike h.parameters Descriptor.SameOutline.alike

theorem widens_padded (signature : Signature) : signature.Widens signature.padded := by
  have hwidens (type : Descriptor) : type.Widens type.padded := ⟨_, rfl⟩
  constructor
  · rfl
  · apply hwidens
  · unfold padded
    rw [List.forall₂_map_right_iff, List.forall₂_same]
    intro parameter _
    apply hwidens

theorem violates_iff_of_parameterCount? {count : Nat} (h : mismatch.parameterCount? = some count) :
    signature.Violates mismatch ↔ signature.parameters.length ≠ count := by
  cases mismatch <;> cases h <;> rfl

theorem violates_iff_of_returns_eq (hreturns : left.returns = right.returns)
    (hlength : left.parameters.length = right.parameters.length)
    (hne : mismatch ≠ .consumedStreamRaw) : left.Violates mismatch ↔ right.Violates mismatch := by
  cases mismatch with
  | consumedStreamRaw => exact absurd rfl hne
  | oneParameterExpected | asyncTakesOneParameter | unsupported | processorTakesNoParameters
  | publisherTakesNoParameters | subscriberTakesNoParameters =>
    unfold Violates
    rw [hlength]
  | _ =>
    unfold Violates
    rw [hreturns]

/--
A wrong number of parameters is noticed before anything that depends on their types.
-/
theorem FirstViolated.of_parameterCount {kind : Kind} {shape : Shape}
    (hfirst : left.FirstViolated (kind.requirements shape) mismatch)
    (hcount : mismatch.parameterCount?.isSome) (hreturns : left.returns = right.returns)
    (hlength : left.parameters.length = right.parameters.length) :
    right.FirstViolated (kind.requirements shape) mismatch := by
  have hviolates : right.Violates mismatch := by
    refine (violates_iff_of_returns_eq hreturns hlength ?_).mp hfirst.violates
    rintro rfl
    cases hcount
  by_cases hshape : shape = .streamTransformer
  -- Here the number of parameters is what is checked first.
  · subst hshape
    cases hfirst with
    | head _ => exact .head hviolates
    | tail _ hrest =>
      have hmem := hrest.mem
      simp only [List.mem_cons, List.not_mem_nil, or_false] at hmem
      rcases hmem with rfl | rfl
      all_goals cases hcount
  · apply hfirst.of_violates hviolates
    intro passed hmem
    refine (violates_iff_of_returns_eq hreturns hlength ?_).mpr
    rintro rfl
    exact hshape (Kind.shape_of_consumedStreamRaw_mem hmem)

end Signature

namespace Declaration

variable {declaration : Declaration}

theorem context_shape_eq_iff (declaration : Declaration) :
    (declaration.shape.context = .incomingOutgoing ↔
        declaration.incoming.isSome ∧ declaration.outgoing.isSome) ∧
      (declaration.shape.context = .incoming ↔
        declaration.incoming.isSome ∧ declaration.outgoing = none) ∧
      (declaration.shape.context = .outgoing ↔ declaration.incoming = none) := by
  rcases declaration with ⟨signature, _ | _, _ | _⟩
  all_goals cases h : signature.mapsStreams <;> simp [shape, h, Shape.context]

def withParameters (declaration : Declaration) (parameters : List Descriptor) : Declaration :=
  { declaration with signature := { declaration.signature with parameters } }

/--
A method keeps its shape with some parameters that are as many as the shape asks for.
-/
theorem exists_parameters (declaration : Declaration) :
    ∃ parameters,
      parameters.length = declaration.signature.returns.kind.parameterCount declaration.shape ∧
        (declaration.withParameters parameters).shape = declaration.shape := by
  have hhas := hasShape_shape declaration
  cases hshape : declaration.shape with
  | publisher =>
    rw [hshape] at hhas
    exact ⟨[], rfl, shape_eq_iff.mpr hhas⟩
  | subscriber =>
    rw [hshape] at hhas
    exact ⟨List.replicate _ .payload, List.length_replicate, shape_eq_iff.mpr hhas⟩
  | processor =>
    rw [hshape] at hhas
    refine ⟨List.replicate _ .payload, List.length_replicate, ?_⟩
    rw [shape_eq_iff]
    refine ⟨hhas.1, hhas.2.1, ?_⟩
    -- Payloads are no stream, so that none is mapped.
    rintro ⟨_, first, rest, hcons, hsource⟩
    change List.replicate _ Descriptor.payload = first :: rest at hcons
    have hfirst : first ∈ List.replicate _ Descriptor.payload := hcons ▸ List.mem_cons_self
    rw [List.eq_of_mem_replicate hfirst] at hsource
    revert hsource
    decide
  | streamTransformer =>
    rw [hshape] at hhas
    obtain ⟨hincoming, houtgoing, hsource, _⟩ := hhas
    -- What the method returns is a stream, so that the same type is one as its parameter.
    exact
      ⟨[declaration.signature.returns], rfl,
        shape_eq_iff.mpr ⟨hincoming, houtgoing, hsource, _, [], rfl, hsource⟩⟩

/--
No rejection is about the number of parameters if it is the one that the shape asks for.
-/
theorem code_ne_of_length_parameters {rejection : Rejection}
    (hlength :
      declaration.signature.parameters.length =
        declaration.signature.returns.kind.parameterCount declaration.shape)
    (h : declaration.classify = .error rejection) :
    rejection.code ≠ .arityMismatch ∧ rejection.code ≠ .unsupportedSignature := by
  obtain ⟨mismatch, hfirst, rfl⟩ := classify_eq_error_iff.mp h
  rw [← not_or]
  intro hcode
  have hcount := mismatch.isSome_parameterCount?_iff.mpr hcode
  have heq := Kind.parameterCount?_of_mem_requirements hfirst.mem hcount
  exact (Signature.violates_iff_of_parameterCount? heq).mp hfirst.violates hlength

theorem exists_rejection_of_void (hshape : declaration.shape = .publisher)
    (hvoid : declaration.signature.returns.kind = .void) :
    ∃ rejection, declaration.classify = .error rejection ∧ rejection.code = .voidReturn := by
  have hfirst :
      declaration.signature.FirstViolated
        (declaration.signature.returns.kind.requirements declaration.shape) .voidReturn := by
    rw [hshape, hvoid]
    exact .head hvoid
  exact ⟨_, classify_eq_error_iff.mpr ⟨_, hfirst, rfl⟩, rfl⟩

theorem exists_rejection_of_sameOutline {signature : Signature} {mismatch : Mismatch}
    (houtline : declaration.signature.SameOutline signature)
    (hfirst :
      declaration.signature.FirstViolated
        (declaration.signature.returns.kind.requirements declaration.shape) mismatch) :
    ∃ rejection,
      { declaration with signature }.classify = .error rejection ∧
        rejection.code = mismatch.code ∧ rejection.reason = mismatch.reason := by
  have hshape := shape_with signature houtline.alike.mapsStreams_eq.symm
  have hviolates := houtline.symm.alike.violates_of_violates hfirst.violates
  have hother := hfirst.of_violates hviolates fun _ _ => houtline.alike.violates_of_violates
  rw [houtline.returns.kind, ← hshape] at hother
  exact ⟨_, classify_eq_error_iff.mpr ⟨mismatch, hother, rfl⟩, rfl, rfl⟩

end Declaration

theorem Rejection.Code.isClassification_name (code : Code) :
    Fault.Code.isClassification code.name = true := by
  cases code <;> decide

/--
What a rejection tells about the declaration that it is about: where it is bound, how it is
declared, and which part of its signature has to change.
-/
structure Rejection.Blames (rejection : Rejection) (blamed : Declaration) : Prop where
  incomingOutgoing_iff :
    rejection.context = .incomingOutgoing ↔ blamed.incoming.isSome ∧ blamed.outgoing.isSome
  incoming_iff :
    rejection.context = .incoming ↔ blamed.incoming.isSome ∧ blamed.outgoing = none
  outgoing_iff : rejection.context = .outgoing ↔ blamed.incoming = none
  identity : rejection.identity = blamed.signature.identity
  declaration : rejection.declaration = blamed.signature.format
  isClassification : Fault.Code.isClassification (Fault.rejected rejection).code = true
  /-- Other types of the parameters do not help. -/
  types_irrelevant :
    rejection.code = .arityMismatch ∨ rejection.code = .unsupportedSignature →
      ∀ other : Declaration,
        other.signature.returns = blamed.signature.returns →
          other.signature.parameters.length = blamed.signature.parameters.length →
            other.shape = blamed.shape →
              ∃ otherRejection,
                other.classify = .error otherRejection ∧ otherRejection.code = rejection.code ∧
                  otherRejection.reason = rejection.reason
  /-- Another number of parameters does. -/
  parameters_repair :
    rejection.code = .arityMismatch ∨ rejection.code = .unsupportedSignature →
      ∃ parameters,
        parameters.length ≤ 1 ∧ (blamed.withParameters parameters).shape = blamed.shape ∧
          ∀ other, (blamed.withParameters parameters).classify = .error other →
            other.code ≠ .arityMismatch ∧ other.code ≠ .unsupportedSignature
  parameters_irrelevant :
    rejection.code = .voidReturn →
      ∀ parameters,
        ∃ other,
          (blamed.withParameters parameters).classify = .error other ∧ other.code = .voidReturn
  /-- Other type arguments do not help, as long as they are not more. -/
  arguments_irrelevant :
    rejection.code = .missingTypeArgument →
      ∀ signature, blamed.signature.SameOutline signature →
        ∃ other,
          { blamed with signature }.classify = .error other ∧
            other.code = .missingTypeArgument ∧ other.reason = rejection.reason
  /-- More type arguments do. -/
  arguments_repair :
    rejection.code = .missingTypeArgument →
      ∃ wider, blamed.signature.Widens wider ∧
        ∀ other, { blamed with signature := wider }.classify = .error other →
          other.code ≠ .missingTypeArgument

namespace Declaration

variable {declaration : Declaration} {rejection : Rejection}

/--
The code of a rejection blames the part of the signature that is at fault: to change another part
never helps, and to change that part alone does.
-/
theorem blames_of_classify_eq_error (h : declaration.classify = .error rejection) :
    rejection.Blames declaration := by
  obtain ⟨mismatch, hfirst, rfl⟩ := classify_eq_error_iff.mp h
  constructor
  · exact declaration.context_shape_eq_iff.1
  · exact declaration.context_shape_eq_iff.2.1
  · exact declaration.context_shape_eq_iff.2.2
  · rfl
  · rfl
  · apply Rejection.Code.isClassification_name
  · intro hcode other hreturns hlength hshape
    rw [← hreturns, ← hshape] at hfirst
    have hcount := mismatch.isSome_parameterCount?_iff.mpr hcode
    have hother := hfirst.of_parameterCount hcount hreturns.symm hlength.symm
    exact ⟨_, classify_eq_error_iff.mpr ⟨mismatch, hother, rfl⟩, rfl, rfl⟩
  · intro _
    obtain ⟨parameters, hlength, hshape⟩ := declaration.exists_parameters
    refine ⟨parameters, hlength ▸ Kind.parameterCount_le_one _ _, hshape, ?_⟩
    intro other hother
    apply code_ne_of_length_parameters _ hother
    rw [hshape]
    exact hlength
  · intro hcode parameters
    cases mismatch <;> cases hcode
    have hpublisher := shape_eq_iff.mp (Kind.shape_of_voidReturn_mem hfirst.mem)
    exact exists_rejection_of_void (shape_eq_iff.mpr hpublisher) hfirst.violates
  · intro hcode signature houtline
    obtain ⟨other, hother, heq, hreason⟩ := exists_rejection_of_sameOutline houtline hfirst
    exact ⟨other, hother, heq.trans hcode, hreason⟩
  · intro _
    refine ⟨_, declaration.signature.widens_padded, ?_⟩
    intro other
    apply code_ne_missingTypeArgument
    · apply Descriptor.two_le_length_padded
    · intro parameter hmem
      obtain ⟨_, _, rfl⟩ := List.mem_map.mp hmem
      apply Descriptor.two_le_length_padded

theorem blames_of_classify_eq_error_stream :
    let declaration : Declaration :=
      {
        signature :=
          {
            identity := "Prices#route"
            returns := ⟨.stream, "Publisher", []⟩
            parameters := [.payload "Tick", ⟨.stream, "Publisher", []⟩]
          }
        incoming := some { channel := "ticks", provider := none }
        outgoing := some { channel := "prices", provider := none }
      }
    ∃ rejection,
      declaration.classify = .error rejection ∧ rejection.code = .arityMismatch ∧
        rejection.Blames declaration := by
  intro declaration
  have hclassify :
      declaration.classify =
        .error (Mismatch.oneParameterExpected.reject .incomingOutgoing declaration.signature) := by
    rfl
  exact ⟨_, hclassify, rfl, blames_of_classify_eq_error hclassify⟩

end Declaration

end Mediation

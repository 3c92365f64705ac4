import Mediation.Descriptor.Construction
import Mediation.Proofs.Classification.Comparison
import Mediation.Proofs.Classification.Decision

/-!
This module contains what becomes of a classification when the types of a signature declare further
type arguments behind their own ones: an accepted signature stays accepted, and only a missing type
argument is ever made up for.
-/

namespace Mediation

/--
A type that declares further type arguments behind those of another one.
-/
def Descriptor.Widens (type wider : Descriptor) : Prop :=
  ∃ added, wider = { type with arguments := type.arguments ++ added }

structure Signature.Widens (signature wider : Signature) : Prop where
  identity : wider.identity = signature.identity
  returns : signature.returns.Widens wider.returns
  parameters : List.Forall₂ Descriptor.Widens signature.parameters wider.parameters

theorem Descriptor.Widens.alike {type wider : Descriptor} (h : type.Widens wider) :
    type.Alike KeepsElement wider := by
  obtain ⟨added, rfl⟩ := h
  have hkeeps (index : Nat) :
      KeepsElement type.arguments[index]? (type.arguments ++ added)[index]? := by
    intro element helement
    obtain ⟨hlt, _⟩ := List.getElem?_eq_some_iff.mp helement
    rw [List.getElem?_append_left hlt]
    exact ⟨element, helement, rfl⟩
  exact ⟨rfl, hkeeps 0, hkeeps 1⟩

theorem Signature.Widens.alike {signature wider : Signature} (h : signature.Widens wider) :
    signature.Alike KeepsElement wider :=
  .of_forall₂ h.returns.alike h.parameters Descriptor.Widens.alike

namespace Kind

/--
Behind a missing type argument, no requirement is checked but further type arguments, and the number
of parameters of a method that hands on asynchronous values.
-/
theorem pairwise_requirements (kind : Kind) (shape : Shape) :
    (kind.requirements shape).Pairwise fun mismatch later =>
      mismatch.code = .missingTypeArgument →
        later.code = .missingTypeArgument ∨
          later = .oneParameterExpected ∧ shape = .processor ∧ kind = .async := by
  cases kind <;> cases shape <;> decide

theorem shape_of_consumedStreamRaw_mem {kind : Kind} {shape : Shape}
    (h : .consumedStreamRaw ∈ kind.requirements shape) : shape = .streamTransformer := by
  revert h
  cases kind <;> cases shape <;> decide

end Kind

namespace Signature

variable {signature other : Signature} {first second : Mismatch} {requirements : List Mismatch}

theorem FirstViolated.eq_or_behind {behind : Mismatch → Mismatch → Prop}
    (hfirst : signature.FirstViolated requirements first)
    (hsecond : other.FirstViolated requirements second)
    (himp : ∀ passed ∈ requirements, other.Violates passed → signature.Violates passed)
    (hbehind : requirements.Pairwise behind) : second = first ∨ behind first second := by
  induction hfirst with
  | head _ =>
    cases hsecond with
    | head _ => exact .inl rfl
    | tail _ hrest => exact .inr (List.rel_of_pairwise_cons hbehind hrest.mem)
  | tail hpassed _ ih =>
    obtain ⟨himpPassed, himpRest⟩ := List.forall_mem_cons.mp himp
    cases hsecond with
    | head hviolates => exact absurd (himpPassed hviolates) hpassed
    | tail _ hrest => exact ih hrest himpRest hbehind.of_cons

end Signature

theorem Descriptor.getElem?_arguments_ne_none {type : Descriptor} {index : Nat}
    (hdeclared : 2 ≤ type.arguments.length) (hindex : index < 2) :
    type.arguments[index]? ≠ none := by
  rw [Ne, List.getElem?_eq_none_iff]
  omega

theorem Descriptor.element?_ne_none {type : Descriptor} (hdeclared : 2 ≤ type.arguments.length) :
    type.element? ≠ none := by
  unfold element?
  split
  next => exact getElem?_arguments_ne_none hdeclared (by decide)
  next => exact getElem?_arguments_ne_none hdeclared (by decide)

namespace Declaration

variable {declaration : Declaration}

theorem shape_with (signature : Signature)
    (h : signature.mapsStreams = declaration.signature.mapsStreams) :
    { declaration with signature }.shape = declaration.shape := by
  unfold shape
  rw [h]

/--
No type argument is missing where every type declares two of them.
-/
theorem code_ne_missingTypeArgument {rejection : Rejection}
    (hreturns : 2 ≤ declaration.signature.returns.arguments.length)
    (hparameters :
      ∀ parameter ∈ declaration.signature.parameters, 2 ≤ parameter.arguments.length)
    (h : declaration.classify = .error rejection) : rejection.code ≠ .missingTypeArgument := by
  obtain ⟨mismatch, hfirst, rfl⟩ := classify_eq_error_iff.mp h
  have hviolates := hfirst.violates
  intro hcode
  cases mismatch with
  | returnedStreamRaw => exact Descriptor.element?_ne_none hreturns hviolates
  | consumedStreamRaw =>
    -- Streams are transformed only by a method that has a parameter.
    have hshape := Kind.shape_of_consumedStreamRaw_mem hfirst.mem
    obtain ⟨_, _, _, first, rest, hcons, _⟩ := shape_eq_iff.mp hshape
    unfold Signature.Violates at hviolates
    rw [hcons] at hviolates hparameters
    exact Descriptor.element?_ne_none (hparameters first List.mem_cons_self) hviolates
  | returnedProcessorRaw =>
    rcases hviolates with hinput | houtput
    · exact Descriptor.getElem?_arguments_ne_none hreturns (by decide) hinput
    · exact Descriptor.getElem?_arguments_ne_none hreturns (by decide) houtput
  | processedValueRaw | publishedValueRaw | returnedSubscriberRaw =>
    exact Descriptor.getElem?_arguments_ne_none hreturns (by decide) hviolates
  | _ => cases hcode

/--
What the classification of a declaration is to that of the same declaration with wider types.
-/
structure WidensTo (declaration wider : Declaration) : Prop where
  shape : wider.shape = declaration.shape
  accepted :
    ∀ configuration, declaration.classify = .ok configuration →
      ∃ other,
        wider.classify = .ok other ∧ other.consumption = configuration.consumption ∧
          other.usesBuilderTypes = configuration.usesBuilderTypes ∧
            (other.production = configuration.production ∨
              declaration.shape = .publisher ∧
                declaration.signature.returns.kind ∈ [Kind.stream, .streamBuilder, .processor] ∧
                  declaration.signature.returns.produced? = none)
  rejected :
    ∀ rejection, declaration.classify = .error rejection →
      rejection.code ≠ .missingTypeArgument →
        ∃ other,
          wider.classify = .error other ∧ other.code = rejection.code ∧
            other.reason = rejection.reason
  raw :
    ∀ rejection, declaration.classify = .error rejection →
      rejection.code = .missingTypeArgument →
        (∃ configuration, wider.classify = .ok configuration) ∨
          ∃ other,
            wider.classify = .error other ∧
              (other.code = .missingTypeArgument ∨
                other.code = .arityMismatch ∧ declaration.shape = .processor ∧
                  declaration.signature.returns.kind = .async ∧
                    declaration.signature.parameters.length ≠ 1)
  declared :
    2 ≤ wider.signature.returns.arguments.length →
      (∀ parameter ∈ wider.signature.parameters, 2 ≤ parameter.arguments.length) →
        ∀ rejection, wider.classify = .error rejection → rejection.code ≠ .missingTypeArgument

/--
Declaring more type arguments is monotone: it accepts what was accepted, and helps only where a type
argument was missing.
-/
theorem widening_is_monotone {wider : Signature} (h : declaration.signature.Widens wider) :
    declaration.WidensTo { declaration with signature := wider } := by
  have halike := h.alike
  have hshape := shape_with wider halike.mapsStreams_eq.symm
  have himp : ∀ {mismatch}, wider.Violates mismatch → declaration.signature.Violates mismatch :=
    (halike.mono KeepsElement.declaresToo).violates_of_violates
  constructor
  · exact hshape
  · intro configuration hclassify
    obtain ⟨modes, hmatches, rfl⟩ := classify_eq_ok_iff.mp hclassify
    obtain ⟨production, hwider, hproduction⟩ := halike.exists_matches hmatches
    rw [← hshape] at hwider
    refine ⟨_, classify_eq_ok_iff.mpr ⟨_, hwider, rfl⟩, rfl, rfl, ?_⟩
    rcases hproduction with heq | ⟨hpublisher, hkind, hraw, _⟩
    · exact .inl heq
    · rw [← Descriptor.produced?_eq_element?] at hraw
      refine .inr ⟨hpublisher, ?_, hraw⟩
      exact hkind
  · intro rejection hclassify hcode
    obtain ⟨mismatch, hfirst, rfl⟩ := classify_eq_error_iff.mp hclassify
    have hviolates := (halike.violates_iff_of_code_ne hcode).mp hfirst.violates
    have hwider := hfirst.of_violates hviolates fun _ _ => himp
    rw [halike.returns.kind, ← hshape] at hwider
    exact ⟨_, classify_eq_error_iff.mpr ⟨mismatch, hwider, rfl⟩, rfl, rfl⟩
  · intro rejection hclassify hcode
    obtain ⟨mismatch, hfirst, rfl⟩ := classify_eq_error_iff.mp hclassify
    cases hother : { declaration with signature := wider }.classify with
    | ok configuration => exact .inl ⟨configuration, rfl⟩
    | error other =>
      obtain ⟨later, hlater, rfl⟩ := classify_eq_error_iff.mp hother
      rw [← halike.returns.kind, hshape] at hlater
      refine .inr ⟨_, rfl, ?_⟩
      have hbehind := declaration.signature.returns.kind.pairwise_requirements declaration.shape
      rcases hfirst.eq_or_behind hlater (fun _ _ => himp) hbehind with rfl | hlast
      · exact .inl hcode
      · rcases hlast hcode with hraw | ⟨rfl, hprocessor, hasync⟩
        · exact .inl hraw
        · exact .inr ⟨rfl, hprocessor, hasync, himp hlater.violates⟩
  · intro hreturns hparameters rejection hclassify
    exact code_ne_missingTypeArgument hreturns hparameters hclassify

theorem widening_is_monotone_async :
    let signature : Signature :=
      {
        identity := "Prices#enrich"
        returns := ⟨.async, "Promise", []⟩
        parameters := [.payload "Tick", ⟨.envelope, "Message", []⟩]
      }
    let wider : Signature :=
      {
        identity := "Prices#enrich"
        returns := ⟨.async, "Promise", [⟨.envelope, "Message", []⟩]⟩
        parameters := [⟨.payload, "Tick", [.void]⟩, ⟨.envelope, "Message", []⟩]
      }
    let declaration : Declaration :=
      {
        signature
        incoming := some { channel := "ticks", provider := none }
        outgoing := some { channel := "prices", provider := none }
      }
    let widened : Declaration := { declaration with signature := wider }
    declaration.signature.Widens wider ∧ declaration.WidensTo widened ∧
      ∃ rejection other,
        declaration.classify = .error rejection ∧ rejection.code = .missingTypeArgument ∧
          widened.classify = .error other ∧ other.code = .arityMismatch := by
  intro signature wider declaration widened
  have hwidens : declaration.signature.Widens wider :=
    ⟨rfl, ⟨_, rfl⟩, .cons ⟨[.void], rfl⟩ (.cons ⟨[], rfl⟩ .nil)⟩
  exact ⟨hwidens, widening_is_monotone hwidens, _, _, rfl, rfl, rfl, rfl⟩

end Declaration

end Mediation

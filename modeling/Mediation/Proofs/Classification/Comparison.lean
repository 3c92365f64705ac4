import Mathlib.Data.List.Forall2
import Mediation.Proofs.Classification.Requirement

/-!
This module contains the comparison of signatures by the part of them that decides on their modes:
the kinds of the return type and of the first parameter, the number of parameters, and the first two
type arguments of both types. What is asked of the type arguments is left to the use of the
comparison.
-/

namespace Mediation

/--
Two types of one kind, the first two type arguments of which are related.
-/
structure Descriptor.Alike (related : Option Descriptor → Option Descriptor → Prop)
    (left right : Descriptor) : Prop where
  kind : left.kind = right.kind
  first : related left.arguments[0]? right.arguments[0]?
  second : related left.arguments[1]? right.arguments[1]?

structure Signature.Alike (related : Option Descriptor → Option Descriptor → Prop)
    (left right : Signature) : Prop where
  returns : left.returns.Alike related right.returns
  length : left.parameters.length = right.parameters.length
  first :
    ∀ leftFirst rightFirst,
      left.parameters[0]? = some leftFirst → right.parameters[0]? = some rightFirst →
        leftFirst.Alike related rightFirst

def DeclaresToo (left right : Option Descriptor) : Prop :=
  right = none → left = none

/--
The second type argument is declared with the flavour of the first one, if that is declared.
-/
def KeepsElement (left right : Option Descriptor) : Prop :=
  ∀ element, left = some element → ∃ other, right = some other ∧ element.carried = other.carried

theorem KeepsElement.declaresToo {left right : Option Descriptor} (h : KeepsElement left right) :
    DeclaresToo left right := by
  intro hright
  rw [Option.eq_none_iff_forall_ne_some]
  intro element hleft
  obtain ⟨other, hother, _⟩ := h element hleft
  rw [hright] at hother
  cases hother

variable {related : Option Descriptor → Option Descriptor → Prop}

namespace Descriptor.Alike

variable {left right : Descriptor}

theorem mono {weaker : Option Descriptor → Option Descriptor → Prop}
    (hweaker : ∀ {left right}, related left right → weaker left right)
    (h : left.Alike related right) : left.Alike weaker right := by
  constructor
  · exact h.kind
  · exact hweaker h.first
  · exact hweaker h.second

theorem carried (h : left.Alike related right) : left.carried = right.carried := by
  unfold Descriptor.carried
  rw [h.kind]

theorem element (h : left.Alike related right) : related left.element? right.element? := by
  unfold element?
  rw [h.kind]
  split
  next => exact h.second
  next => exact h.first

end Descriptor.Alike

namespace Signature.Alike

variable {left right : Signature} {shape : Shape} {modes : Modes} {mismatch : Mismatch}

theorem mono {weaker : Option Descriptor → Option Descriptor → Prop}
    (hweaker : ∀ {left right}, related left right → weaker left right)
    (h : left.Alike related right) : left.Alike weaker right := by
  constructor
  · exact h.returns.mono hweaker
  · exact h.length
  · intro leftFirst rightFirst hleft hright
    exact (h.first _ _ hleft hright).mono hweaker

theorem of_forall₂ {same : Descriptor → Descriptor → Prop}
    (hreturns : left.returns.Alike related right.returns)
    (hparameters : List.Forall₂ same left.parameters right.parameters)
    (hsame : ∀ {left right}, same left right → left.Alike related right) :
    left.Alike related right := by
  constructor
  · exact hreturns
  · exact hparameters.length_eq
  · intro leftFirst rightFirst hleft hright
    obtain ⟨hltLeft, rfl⟩ := List.getElem?_eq_some_iff.mp hleft
    obtain ⟨hltRight, rfl⟩ := List.getElem?_eq_some_iff.mp hright
    exact hsame (hparameters.get hltLeft hltRight)

theorem parameters_cases (h : left.Alike related right) :
    (left.parameters = [] ∧ right.parameters = []) ∨
      ∃ leftFirst leftRest rightFirst rightRest,
        left.parameters = leftFirst :: leftRest ∧ right.parameters = rightFirst :: rightRest ∧
          leftFirst.Alike related rightFirst := by
  have hlength := h.length
  have hfirst := h.first
  cases hleft : left.parameters with
  | nil =>
    rw [hleft, List.length_nil, eq_comm, List.length_eq_zero_iff] at hlength
    exact .inl ⟨rfl, hlength⟩
  | cons leftFirst leftRest =>
    cases hright : right.parameters with
    | nil => simp [hleft, hright] at hlength
    | cons rightFirst rightRest =>
      rw [hleft, hright] at hfirst
      exact .inr ⟨_, _, _, _, rfl, rfl, hfirst leftFirst rightFirst rfl rfl⟩

theorem parameters_eq_nil (h : left.Alike related right) (hleft : left.parameters = []) :
    right.parameters = [] := by
  rw [← List.length_eq_zero_iff, ← h.length, hleft, List.length_nil]

theorem parameters_eq_singleton {parameter : Descriptor} (h : left.Alike related right)
    (hleft : left.parameters = [parameter]) :
    ∃ other, right.parameters = [other] ∧ parameter.Alike related other := by
  have hlength := h.length
  rw [hleft, List.length_singleton, eq_comm, List.length_eq_one_iff] at hlength
  obtain ⟨other, hright⟩ := hlength
  refine ⟨other, hright, h.first _ _ ?_ ?_⟩
  · simp [hleft]
  · simp [hright]

theorem mapsStreams_eq (h : left.Alike related right) : left.mapsStreams = right.mapsStreams := by
  unfold mapsStreams
  rw [h.returns.kind]
  rcases h.parameters_cases with ⟨hleft, hright⟩ | ⟨_, _, _, _, hleft, hright, hfirst⟩
  · rw [hleft, hright]
  · rw [hleft, hright, List.head?_cons, List.head?_cons, Option.any_some, Option.any_some,
      hfirst.kind]

theorem violates_of_violates (h : left.Alike DeclaresToo right)
    (hright : right.Violates mismatch) : left.Violates mismatch := by
  cases mismatch with
  | returnedStreamRaw => exact h.returns.element hright
  | consumedStreamRaw =>
    unfold Violates at hright ⊢
    rcases h.parameters_cases with ⟨hleft, _⟩ | ⟨_, _, _, _, hleft, hcons, hfirst⟩
    · rw [hleft]
      rfl
    · rw [hcons] at hright
      rw [hleft]
      exact hfirst.element hright
  | returnedProcessorRaw => exact hright.imp h.returns.first h.returns.second
  | processedValueRaw | publishedValueRaw | returnedSubscriberRaw => exact h.returns.first hright
  | voidReturn =>
    unfold Violates at hright ⊢
    rwa [h.returns.kind]
  | _ =>
    unfold Violates at hright ⊢
    rwa [h.length]

/--
All that the other requirements look at is the kind of the return type and the number of parameters.
-/
theorem violates_iff_of_code_ne (h : left.Alike related right)
    (hcode : mismatch.code ≠ .missingTypeArgument) :
    left.Violates mismatch ↔ right.Violates mismatch := by
  cases mismatch with
  | returnedStreamRaw | consumedStreamRaw | returnedProcessorRaw | processedValueRaw
  | publishedValueRaw | returnedSubscriberRaw => exact absurd rfl hcode
  | voidReturn =>
    unfold Violates
    rw [h.returns.kind]
  | _ =>
    unfold Violates
    rw [h.length]

/--
A row of the table that lists a signature lists the other one as well. Only what a publishing method
produces can differ, if the stream that it returns declares its element in the second signature
alone.
-/
theorem exists_matches (h : left.Alike KeepsElement right) (hmatches : left.Matches shape modes) :
    ∃ production,
      right.Matches shape { modes with production } ∧
        (production = modes.production ∨
          shape = .publisher ∧ left.returns.kind ∈ Kind.sources ∧ left.returns.element? = none ∧
            modes.production = .stream .payload ∧
            production = .stream (right.returns.element?.elim .payload Descriptor.carried)) := by
  cases hmatches with
  | returnedSubscriber hkind hparameters helement =>
    obtain ⟨element, hright, hflavour⟩ := h.returns.first _ helement
    rw [h.returns.kind] at hkind
    rw [hflavour]
    exact ⟨_, .returnedSubscriber hkind (h.parameters_eq_nil hparameters) hright, .inl rfl⟩
  | consumedItem hkind hparameters =>
    obtain ⟨parameter, hright, hsame⟩ := h.parameters_eq_singleton hparameters
    rw [h.returns.kind] at hkind
    rw [hsame.carried]
    exact ⟨_, .consumedItem hkind hright, .inl rfl⟩
  | publishedStream hkind hparameters =>
    have hkindRight := hkind
    rw [h.returns.kind] at hkindRight
    rw [h.returns.kind]
    refine ⟨_, .publishedStream hkindRight (h.parameters_eq_nil hparameters), ?_⟩
    cases helement : left.returns.element? with
    | none => exact .inr ⟨rfl, h.returns.kind ▸ hkind, rfl, rfl, rfl⟩
    | some element =>
      obtain ⟨other, hother, hflavour⟩ := h.returns.element _ helement
      left
      simp [hother, hflavour]
  | publishedStage hasync hparameters hvalue =>
    obtain ⟨value, hright, hflavour⟩ := h.returns.first _ hvalue
    rw [h.returns.kind] at hasync
    rw [hflavour]
    exact ⟨_, .publishedStage hasync (h.parameters_eq_nil hparameters) hright, .inl rfl⟩
  | publishedItem hsource hasync hvoid hparameters =>
    rw [h.returns.kind] at hsource hasync hvoid
    rw [h.returns.carried]
    exact ⟨_, .publishedItem hsource hasync hvoid (h.parameters_eq_nil hparameters), .inl rfl⟩
  | transformedStream hparameters hproduced hconsumed =>
    obtain ⟨parameter, hright, hsame⟩ := h.parameters_eq_singleton hparameters
    obtain ⟨produced, hproducedRight, hproducedFlavour⟩ := h.returns.element _ hproduced
    obtain ⟨consumed, hconsumedRight, hconsumedFlavour⟩ := hsame.element _ hconsumed
    rw [hproducedFlavour, hconsumedFlavour, h.returns.kind]
    exact ⟨_, .transformedStream hright hproducedRight hconsumedRight, .inl rfl⟩
  | returnedProcessor hkind hparameters hinput houtput =>
    obtain ⟨input, hinputRight, hinputFlavour⟩ := h.returns.first _ hinput
    obtain ⟨output, houtputRight, houtputFlavour⟩ := h.returns.second _ houtput
    rw [h.returns.kind] at hkind
    rw [hinputFlavour, houtputFlavour, h.returns.kind]
    have hnil := h.parameters_eq_nil hparameters
    exact ⟨_, .returnedProcessor hkind hnil hinputRight houtputRight, .inl rfl⟩
  | streamPerItem hsource hprocessor hparameters helement =>
    obtain ⟨parameter, hright, hsame⟩ := h.parameters_eq_singleton hparameters
    obtain ⟨element, helementRight, hflavour⟩ := h.returns.element _ helement
    rw [h.returns.kind] at hsource hprocessor
    rw [hflavour, hsame.carried, h.returns.kind]
    exact ⟨_, .streamPerItem hsource hprocessor hright helementRight, .inl rfl⟩
  | stagePerItem hasync hparameters hvalue =>
    obtain ⟨parameter, hright, hsame⟩ := h.parameters_eq_singleton hparameters
    obtain ⟨value, hvalueRight, hflavour⟩ := h.returns.first _ hvalue
    rw [h.returns.kind] at hasync
    rw [hflavour, hsame.carried]
    exact ⟨_, .stagePerItem hasync hright hvalueRight, .inl rfl⟩
  | itemPerItem hsource hprocessor hasync hparameters =>
    obtain ⟨parameter, hright, hsame⟩ := h.parameters_eq_singleton hparameters
    rw [h.returns.kind] at hsource hprocessor hasync
    rw [h.returns.carried, hsame.carried]
    exact ⟨_, .itemPerItem hsource hprocessor hasync hright, .inl rfl⟩

end Signature.Alike

end Mediation

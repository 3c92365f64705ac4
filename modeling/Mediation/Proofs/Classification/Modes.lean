import Mediation.Descriptor.Construction
import Mediation.Proofs.Classification.Decision

/-!
This module contains the modes of mediators across shapes: which modes go together, and that
production is read off the return type and consumption off the input, in the same way under all
shapes.
-/

namespace Mediation

def Production.IsStream : Production → Prop
  | .stream _ => True
  | _ => False

def Consumption.IsStream : Consumption → Prop
  | .stream _ => True
  | _ => False

/--
The modes that go with a shape, for a method that returns a type of some kind.
-/
structure Modes.Fits (modes : Modes) (shape : Shape) (kind : Kind) : Prop where
  production_none_iff : modes.production = .none ↔ shape = .subscriber
  consumption_none_iff : modes.consumption = .none ↔ shape = .publisher
  streamTransformer :
    shape = .streamTransformer → modes.production.IsStream ∧ modes.consumption.IsStream
  processor : shape = .processor → (modes.production.IsStream ↔ modes.consumption.IsStream)
  usesBuilderTypes_iff : modes.usesBuilderTypes ↔ modes.production.IsStream ∧ kind ∈ Kind.builders

theorem Signature.Matches.fits {signature : Signature} {shape : Shape} {modes : Modes}
    (h : signature.Matches shape modes) : modes.Fits shape signature.returns.kind := by
  cases h with
  | publishedStream hkind _ =>
    -- Of the stream sources, only the stream builder is of the builder family.
    have hbuilder :
        signature.returns.kind = .streamBuilder ↔ signature.returns.kind ∈ Kind.builders := by
      revert hkind
      cases signature.returns.kind <;> decide
    constructor <;> simp [Production.IsStream, hbuilder]
  | _ => constructor <;> simp [Production.IsStream, Consumption.IsStream]

namespace Kind

/--
The kinds of the types that are handed on as a stream. A processor builder is one of them only if
there is an input for the processor.
-/
def emitters (hasInput : Bool) : List Kind :=
  if hasInput then sources ++ processors else sources

theorem mem_emitters_of_mem_sources {kind : Kind} (h : kind ∈ sources) (hasInput : Bool) :
    kind ∈ emitters hasInput := by
  revert h
  cases kind <;> cases hasInput <;> decide

theorem mem_emitters_iff_of_ne {kind : Kind} (h : kind ≠ .processorBuilder) (hasInput : Bool) :
    kind ∈ emitters hasInput ↔ kind ∈ sources := by
  revert h
  cases kind <;> cases hasInput <;> decide

end Kind

namespace Descriptor

/--
The flavour of a type argument. One that is not declared counts as a payload.
-/
def flavourOf (argument? : Option Descriptor) : Flavour :=
  argument?.elim .payload carried

/--
How a method that returns a type hands on its result.
-/
def production (type : Descriptor) (hasInput : Bool) : Production :=
  if type.kind ∈ Kind.emitters hasInput then
    .stream (flavourOf type.element?)
  else if type.kind = .async then
    .completionStage (flavourOf type.arguments[0]?)
  else
    .individual type.carried

variable {type : Descriptor} {hasInput : Bool}

theorem production_of_mem_emitters (h : type.kind ∈ Kind.emitters hasInput) :
    type.production hasInput = .stream (flavourOf type.element?) := by
  unfold production
  rw [if_pos h]

theorem production_of_async (h : type.kind = .async) :
    type.production hasInput = .completionStage (flavourOf type.arguments[0]?) := by
  have hemitter : type.kind ∉ Kind.emitters hasInput := by
    rw [h]
    cases hasInput <;> decide
  unfold production
  rw [if_neg hemitter, if_pos h]

theorem production_of_item (hemitter : type.kind ∉ Kind.emitters hasInput)
    (hasync : type.kind ≠ .async) : type.production hasInput = .individual type.carried := by
  unfold production
  rw [if_neg hemitter, if_neg hasync]

/--
The input of a method matters to what it hands on only if it returns a processor builder.
-/
theorem production_eq_of_kind_ne (h : type.kind ≠ .processorBuilder) (first second : Bool) :
    type.production first = type.production second := by
  unfold production
  simp only [Kind.mem_emitters_iff_of_ne h]

end Descriptor

/--
The flavour of what a method gets through a parameter that it maps to a stream: of the elements, if
the parameter is a stream itself.
-/
def Descriptor.mappedFlavour (parameter : Descriptor) : Flavour :=
  if parameter.kind ∈ Kind.sources then flavourOf parameter.element? else parameter.carried

namespace Signature

/--
How a method takes its input. Without parameters, the input is what the returned type accepts.
-/
def consumption (signature : Signature) (hasOutput : Bool) : Consumption :=
  match signature.parameters with
  | [] => .stream (Descriptor.flavourOf signature.returns.arguments[0]?)
  | parameter :: _ =>
    if hasOutput ∧ signature.returns.kind ∈ Kind.sources then
      .stream parameter.mappedFlavour
    else
      .item parameter.carried

variable {signature : Signature} {parameter : Descriptor} {hasOutput : Bool}

theorem consumption_of_nil (h : signature.parameters = []) :
    signature.consumption hasOutput =
      .stream (Descriptor.flavourOf signature.returns.arguments[0]?) := by
  unfold consumption
  rw [h]

theorem consumption_of_source (hparameters : signature.parameters = [parameter])
    (houtput : hasOutput = true) (hkind : signature.returns.kind ∈ Kind.sources) :
    signature.consumption hasOutput = .stream parameter.mappedFlavour := by
  unfold consumption
  rw [hparameters]
  exact if_pos ⟨houtput, hkind⟩

theorem consumption_of_item (hparameters : signature.parameters = [parameter])
    (h : hasOutput = true → signature.returns.kind ∉ Kind.sources) :
    signature.consumption hasOutput = .item parameter.carried := by
  unfold consumption
  rw [hparameters]
  exact if_neg fun hmaps => h hmaps.1 hmaps.2

/--
Of the return type, only whether it is a stream matters to what a method takes through parameters.
-/
theorem consumption_congr {left right : Signature} (hne : left.parameters ≠ [])
    (hparameters : left.parameters = right.parameters)
    (hsources : left.returns.kind ∈ Kind.sources ↔ right.returns.kind ∈ Kind.sources) :
    left.consumption hasOutput = right.consumption hasOutput := by
  unfold consumption
  rw [← hparameters]
  cases hcons : left.parameters with
  | nil => exact absurd hcons hne
  | cons parameter rest => simp only [hsources]

end Signature

namespace Declaration

variable {declaration : Declaration} {configuration : Configuration}

theorem production_eq_of_classify (h : declaration.classify = .ok configuration)
    (houtgoing : declaration.outgoing.isSome) :
    configuration.production =
      declaration.signature.returns.production declaration.incoming.isSome := by
  obtain ⟨modes, hmatches, rfl⟩ := classify_eq_ok_iff.mp h
  have hshape := hasShape_shape declaration
  generalize declaration.shape = shape at hshape hmatches
  change modes.production = _
  symm
  cases hmatches with
  | returnedSubscriber | consumedItem =>
    obtain ⟨_, hnone⟩ := hshape
    simp [Option.isNone_iff_eq_none.mp hnone] at houtgoing
  | publishedStream hkind _ =>
    exact Descriptor.production_of_mem_emitters (Kind.mem_emitters_of_mem_sources hkind _)
  | publishedStage hasync _ hvalue =>
    rw [Descriptor.production_of_async hasync, hvalue]
    rfl
  | publishedItem hsource hasync _ _ =>
    rw [Option.isSome_eq_false_iff.mpr hshape]
    exact Descriptor.production_of_item hsource hasync
  | transformedStream _ hproduced _ =>
    obtain ⟨_, _, hkind, _⟩ := hshape
    have hemitter := Kind.mem_emitters_of_mem_sources hkind declaration.incoming.isSome
    rw [Descriptor.production_of_mem_emitters hemitter, hproduced]
    rfl
  | returnedProcessor hkind _ _ houtput =>
    rw [hshape.1, Descriptor.production_of_mem_emitters (List.mem_append_right _ hkind)]
    unfold Descriptor.element?
    rw [if_pos hkind, houtput]
    rfl
  | streamPerItem hkind _ _ helement =>
    have hemitter := Kind.mem_emitters_of_mem_sources hkind declaration.incoming.isSome
    rw [Descriptor.production_of_mem_emitters hemitter, helement]
    rfl
  | stagePerItem hasync _ hvalue =>
    rw [Descriptor.production_of_async hasync, hvalue]
    rfl
  | itemPerItem hsource hprocessor hasync _ =>
    rw [hshape.1]
    exact Descriptor.production_of_item (List.not_mem_append hsource hprocessor) hasync

theorem consumption_eq_of_classify (h : declaration.classify = .ok configuration)
    (hincoming : declaration.incoming.isSome) :
    configuration.consumption =
      declaration.signature.consumption declaration.outgoing.isSome := by
  obtain ⟨modes, hmatches, rfl⟩ := classify_eq_ok_iff.mp h
  have hshape := hasShape_shape declaration
  generalize declaration.shape = shape at hshape hmatches
  change modes.consumption = _
  symm
  cases hmatches with
  | publishedStream | publishedStage | publishedItem =>
    simp [Option.isNone_iff_eq_none.mp hshape] at hincoming
  | returnedSubscriber _ hparameters helement =>
    rw [Signature.consumption_of_nil hparameters, helement]
    rfl
  | consumedItem _ hparameters =>
    obtain ⟨_, hnone⟩ := hshape
    apply Signature.consumption_of_item hparameters
    simp [Option.isNone_iff_eq_none.mp hnone]
  | transformedStream hparameters _ hconsumed =>
    obtain ⟨_, houtgoing, hkind, first, rest, hcons, hsource⟩ := hshape
    obtain ⟨rfl, rfl⟩ := List.cons.inj (hparameters.symm.trans hcons)
    rw [Signature.consumption_of_source hparameters houtgoing hkind]
    unfold Descriptor.mappedFlavour
    rw [if_pos hsource, hconsumed]
    rfl
  | returnedProcessor _ hparameters hinput _ =>
    rw [Signature.consumption_of_nil hparameters, hinput]
    rfl
  | streamPerItem hkind _ hparameters _ =>
    obtain ⟨_, houtgoing, htransforms⟩ := hshape
    rw [Signature.consumption_of_source hparameters houtgoing hkind]
    unfold Descriptor.mappedFlavour
    -- A stream as the parameter would make this a method that transforms streams.
    rw [if_neg fun hsource => htransforms ⟨hkind, _, _, hparameters, hsource⟩]
  | stagePerItem hasync hparameters _ =>
    have hsource : declaration.signature.returns.kind ∉ Kind.sources := by rw [hasync]; decide
    exact Signature.consumption_of_item hparameters fun _ => hsource
  | itemPerItem hsource _ _ hparameters =>
    exact Signature.consumption_of_item hparameters fun _ => hsource

theorem usesBuilderTypes_iff_of_classify (h : declaration.classify = .ok configuration) :
    configuration.usesBuilderTypes ↔
      configuration.production.IsStream ∧ declaration.signature.returns.kind ∈ Kind.builders := by
  obtain ⟨modes, hmatches, rfl⟩ := classify_eq_ok_iff.mp h
  exact hmatches.fits.usesBuilderTypes_iff

/--
What the classifications of two declarations have in common, whichever shapes these have.
-/
structure AgreesWith (left right : Declaration) (first second : Configuration) : Prop where
  produced :
    left.signature.returns = right.signature.returns →
      left.outgoing.isSome → right.outgoing.isSome →
        (left.signature.returns.kind = .processorBuilder →
          left.incoming.isSome = right.incoming.isSome) →
            first.production = second.production ∧
              first.usesBuilderTypes = second.usesBuilderTypes
  returnedProcessor :
    left.signature.returns = right.signature.returns →
      left.signature.returns.kind = .processor → left.outgoing.isSome → right.outgoing.isSome →
        let flavour := left.signature.returns.arguments[1]?.elim .payload Descriptor.carried
        first.production = .stream flavour ∧ second.production = .stream flavour
  consumedByReturned :
    left.incoming.isSome → right.incoming.isSome →
      left.signature.parameters = [] → right.signature.parameters = [] →
        left.signature.returns.arguments[0]? = right.signature.returns.arguments[0]? →
          first.consumption = second.consumption
  consumedByParameter :
    left.incoming.isSome → right.incoming.isSome →
      left.outgoing.isSome = right.outgoing.isSome →
        left.signature.parameters ≠ [] → left.signature.parameters = right.signature.parameters →
          (left.signature.returns.kind ∈ [Kind.stream, .streamBuilder, .processor] ↔
            right.signature.returns.kind ∈ [Kind.stream, .streamBuilder, .processor]) →
              first.consumption = second.consumption

/--
A mediator produces what its return type says and consumes what its input says, consistently across
the shapes. The one return type that produces differently is a processor builder, with an input and
without one.
-/
theorem sides_agree_across_shapes {left right : Declaration} {first second : Configuration}
    (hleft : left.classify = .ok first) (hright : right.classify = .ok second) :
    left.AgreesWith right first second := by
  constructor
  · intro hreturns houtLeft houtRight hbuilder
    have hproduction : first.production = second.production := by
      rw [production_eq_of_classify hleft houtLeft, production_eq_of_classify hright houtRight,
        ← hreturns]
      by_cases hkind : left.signature.returns.kind = .processorBuilder
      · rw [hbuilder hkind]
      · exact Descriptor.production_eq_of_kind_ne hkind _ _
    refine ⟨hproduction, ?_⟩
    rw [Bool.eq_iff_iff, usesBuilderTypes_iff_of_classify hleft,
      usesBuilderTypes_iff_of_classify hright, hproduction, hreturns]
  · intro hreturns hkind houtLeft houtRight flavour
    have hproduction (hasInput : Bool) :
        left.signature.returns.production hasInput = .stream flavour := by
      have hsource : left.signature.returns.kind ∈ Kind.sources := by rw [hkind]; decide
      have hprocessor : left.signature.returns.kind ∈ Kind.processors := by rw [hkind]; decide
      have hemitter := Kind.mem_emitters_of_mem_sources hsource hasInput
      rw [Descriptor.production_of_mem_emitters hemitter, Descriptor.element?, if_pos hprocessor]
      rfl
    rw [production_eq_of_classify hleft houtLeft, production_eq_of_classify hright houtRight,
      ← hreturns]
    exact ⟨hproduction _, hproduction _⟩
  · intro hinLeft hinRight hnilLeft hnilRight hargument
    rw [consumption_eq_of_classify hleft hinLeft, consumption_eq_of_classify hright hinRight,
      Signature.consumption_of_nil hnilLeft, Signature.consumption_of_nil hnilRight, hargument]
  · intro hinLeft hinRight hout hne hparameters hsources
    rw [consumption_eq_of_classify hleft hinLeft, consumption_eq_of_classify hright hinRight, hout]
    exact Signature.consumption_congr hne hparameters hsources

theorem sides_agree_across_shapes_processor :
    let returns : Descriptor :=
      ⟨.processor, "Processor", [.payload "Tick", ⟨.envelope, "Message", []⟩]⟩
    let binding : Option Binding := some { channel := "prices", provider := none }
    let publisher : Declaration :=
      {
        signature := { identity := "Prices#emit", returns, parameters := [] }
        incoming := none
        outgoing := binding
      }
    let processor : Declaration := { publisher with incoming := binding }
    let streamTransformer : Declaration :=
      {
        signature :=
          {
            identity := "Prices#map"
            returns
            parameters := [⟨.stream, "Publisher", [.payload]⟩]
          }
        incoming := binding
        outgoing := binding
      }
    ∃ first second third,
      publisher.classify = .ok first ∧ first.shape = .publisher ∧
        processor.classify = .ok second ∧ second.shape = .processor ∧
          streamTransformer.classify = .ok third ∧ third.shape = .streamTransformer ∧
            publisher.AgreesWith processor first second ∧
              processor.AgreesWith streamTransformer second third ∧
                first.production = .stream .message ∧ third.production = .stream .message := by
  intro returns binding publisher processor streamTransformer
  have hfirst : publisher.AgreesWith processor _ _ := sides_agree_across_shapes rfl rfl
  have hsecond : processor.AgreesWith streamTransformer _ _ := sides_agree_across_shapes rfl rfl
  obtain ⟨hpublished, _⟩ := hfirst.returnedProcessor rfl rfl rfl rfl
  obtain ⟨_, htransformed⟩ := hsecond.returnedProcessor rfl rfl rfl rfl
  exact ⟨_, _, _, rfl, rfl, rfl, rfl, rfl, rfl, hfirst, hsecond, hpublished, htransformed⟩

end Declaration

end Mediation

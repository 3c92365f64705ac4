import Mediation.Classification

/-!
This module contains the table of the signatures that each shape supports, written on the kinds and
the type arguments of a signature alone, and the proof that a signature has modes exactly if a row
of the table lists it with them.
-/

namespace Mediation

namespace Kind

/--
The kinds of the types that emit a stream.
-/
def sources : List Kind :=
  [.stream, .streamBuilder, .processor]

/--
The kinds of the types that accept a stream without a builder.
-/
def sinks : List Kind :=
  [.subscriber, .processor]

def processors : List Kind :=
  [.processor, .processorBuilder]

def builders : List Kind :=
  [.streamBuilder, .processorBuilder]

theorem isStream_iff (kind : Kind) : kind.isStream ↔ kind ∈ sources := by
  cases kind <;> decide

theorem isSubscriber_iff (kind : Kind) : kind.isSubscriber ↔ kind ∈ sinks := by
  cases kind <;> decide

theorem isProcessor_iff (kind : Kind) : kind.isProcessor ↔ kind ∈ processors := by
  cases kind <;> decide

theorem isBuilder_eq_decide (kind : Kind) : kind.isBuilder = decide (kind ∈ builders) := by
  cases kind <;> decide

theorem isBuilderStream_eq_decide (kind : Kind) :
    kind.isBuilderStream = decide (kind = .streamBuilder) := by
  cases kind <;> decide

end Kind

/--
The element of a declared type: the second argument of a processor, and the first argument of a type
of any other kind.
-/
def Descriptor.element? (type : Descriptor) : Option Descriptor :=
  if type.kind ∈ Kind.processors then type.arguments[1]? else type.arguments[0]?

theorem Descriptor.produced?_eq_element? (type : Descriptor) : type.produced? = type.element? := by
  unfold produced? element? argument?
  by_cases h : type.kind ∈ Kind.processors
  · have := (Kind.isProcessor_iff _).mpr h
    simp only [this, h, ↓reduceIte]
  · have := mt (Kind.isProcessor_iff _).mp h
    simp only [this, h, Bool.false_eq_true, ↓reduceIte]

/--
What an element of a declared type arrives as: a message if the type is an envelope, and a payload
if it is of any other kind.
-/
def Descriptor.carried (type : Descriptor) : Flavour :=
  if type.kind = .envelope then .message else .payload

theorem Descriptor.flavour_eq_carried : flavour = carried := by
  funext type
  unfold flavour Kind.flavour carried
  simp only [Kind.isEnvelope_iff]

namespace Signature

/--
The table of supported signatures. A row gives the production, the consumption and the use of
builder types of the signatures that it lists under a shape.
-/
inductive Matches (signature : Signature) : Shape → Modes → Prop where
  | returnedSubscriber {element : Descriptor} :
    signature.returns.kind ∈ Kind.sinks → signature.parameters = [] →
      signature.returns.arguments[0]? = some element →
      Matches signature .subscriber ⟨.none, .stream element.carried, false⟩
  | consumedItem {parameter : Descriptor} :
    signature.returns.kind ∉ Kind.sinks → signature.parameters = [parameter] →
      Matches signature .subscriber ⟨.none, .item parameter.carried, false⟩
  /-- A stream that does not declare its element is one of payloads. -/
  | publishedStream :
    signature.returns.kind ∈ Kind.sources → signature.parameters = [] →
      Matches signature .publisher
        ⟨.stream (signature.returns.element?.elim .payload Descriptor.carried), .none,
          signature.returns.kind = .streamBuilder⟩
  | publishedStage {value : Descriptor} :
    signature.returns.kind = .async → signature.parameters = [] →
      signature.returns.arguments[0]? = some value →
      Matches signature .publisher ⟨.completionStage value.carried, .none, false⟩
  | publishedItem :
    signature.returns.kind ∉ Kind.sources → signature.returns.kind ≠ .async →
      signature.returns.kind ≠ .void → signature.parameters = [] →
      Matches signature .publisher ⟨.individual signature.returns.carried, .none, false⟩
  | transformedStream {parameter produced consumed : Descriptor} :
    signature.parameters = [parameter] → signature.returns.element? = some produced →
      parameter.element? = some consumed →
      Matches signature .streamTransformer
        ⟨.stream produced.carried, .stream consumed.carried,
          signature.returns.kind ∈ Kind.builders⟩
  | returnedProcessor {input output : Descriptor} :
    signature.returns.kind ∈ Kind.processors → signature.parameters = [] →
      signature.returns.arguments[0]? = some input →
      signature.returns.arguments[1]? = some output →
      Matches signature .processor
        ⟨.stream output.carried, .stream input.carried, signature.returns.kind ∈ Kind.builders⟩
  | streamPerItem {parameter element : Descriptor} :
    signature.returns.kind ∈ Kind.sources → signature.returns.kind ∉ Kind.processors →
      signature.parameters = [parameter] → signature.returns.element? = some element →
      Matches signature .processor
        ⟨.stream element.carried, .stream parameter.carried,
          signature.returns.kind ∈ Kind.builders⟩
  | stagePerItem {parameter value : Descriptor} :
    signature.returns.kind = .async → signature.parameters = [parameter] →
      signature.returns.arguments[0]? = some value →
      Matches signature .processor ⟨.completionStage value.carried, .item parameter.carried, false⟩
  | itemPerItem {parameter : Descriptor} :
    signature.returns.kind ∉ Kind.sources → signature.returns.kind ∉ Kind.processors →
      signature.returns.kind ≠ .async → signature.parameters = [parameter] →
      Matches signature .processor
        ⟨.individual signature.returns.carried, .item parameter.carried, false⟩

variable {signature : Signature} {modes : Modes}

theorem processorModes_eq_returnedProcessorModes
    (hprocessor : signature.returns.kind ∈ Kind.processors) :
    signature.processorModes = signature.returnedProcessorModes := by
  unfold processorModes
  rw [if_pos ((Kind.isProcessor_iff _).mpr hprocessor)]

theorem processorModes_eq_streamPerItemModes (hsource : signature.returns.kind ∈ Kind.sources)
    (hprocessor : signature.returns.kind ∉ Kind.processors) :
    signature.processorModes = signature.streamPerItemModes := by
  unfold processorModes
  rw [if_neg (mt (Kind.isProcessor_iff _).mp hprocessor)]
  rw [if_pos ((Kind.isStream_iff _).mpr hsource)]

theorem processorModes_eq_valuePerItemModes (hsource : signature.returns.kind ∉ Kind.sources)
    (hprocessor : signature.returns.kind ∉ Kind.processors) :
    signature.processorModes = signature.valuePerItemModes := by
  unfold processorModes
  rw [if_neg (mt (Kind.isProcessor_iff _).mp hprocessor)]
  rw [if_neg (mt (Kind.isStream_iff _).mp hsource)]

theorem matches_of_subscriberModes (h : signature.subscriberModes = .ok modes) :
    signature.Matches .subscriber modes := by
  unfold subscriberModes returnedSubscriberModes at h
  simp only [Descriptor.flavour_eq_carried] at h
  split at h
  next hkind =>
    rw [Kind.isSubscriber_iff] at hkind
    split at h
    next hparameters =>
      split at h
      next element helement =>
        cases h
        exact .returnedSubscriber hkind hparameters helement
      next => cases h
    next => cases h
  next hkind =>
    rw [Kind.isSubscriber_iff] at hkind
    split at h
    next parameter hparameters =>
      cases h
      exact .consumedItem hkind hparameters
    next => split at h <;> cases h

theorem matches_of_publisherModes (h : signature.publisherModes = .ok modes) :
    signature.Matches .publisher modes := by
  unfold publisherModes publishedProduction at h
  simp only [Descriptor.flavour_eq_carried] at h
  split at h
  next => cases h
  next hvoid =>
    rw [Kind.isVoid_iff] at hvoid
    split at h
    next hparameters =>
      rw [Kind.isBuilderStream_eq_decide] at h
      split at h
      next hkind =>
        rw [Kind.isStream_iff] at hkind
        rw [Descriptor.produced?_eq_element?] at h
        cases h
        exact .publishedStream hkind hparameters
      next hkind =>
        rw [Kind.isStream_iff] at hkind
        -- A stream builder would have been a source.
        have hbuilder : signature.returns.kind ≠ .streamBuilder :=
          ne_of_mem_of_not_mem (by decide) hkind |>.symm
        simp only [hbuilder, decide_false] at h
        split at h
        next hasync =>
          rw [Kind.isAsync_iff] at hasync
          split at h
          next value hvalue =>
            cases h
            exact .publishedStage hasync hparameters hvalue
          next => cases h
        next hasync =>
          rw [Kind.isAsync_iff] at hasync
          cases h
          exact .publishedItem hkind hasync hvoid hparameters
    next => cases h

theorem matches_of_streamTransformerModes (h : signature.streamTransformerModes = .ok modes) :
    signature.Matches .streamTransformer modes := by
  unfold streamTransformerModes at h
  simp only [Descriptor.produced?_eq_element?, Descriptor.flavour_eq_carried,
    Kind.isBuilder_eq_decide] at h
  split at h
  next parameter hparameters =>
    split at h
    next => cases h
    next => cases h
    next produced consumed hproduced hconsumed =>
      cases h
      exact .transformedStream hparameters hproduced hconsumed
  next => cases h

theorem matches_of_returnedProcessorModes (hkind : signature.returns.kind ∈ Kind.processors)
    (h : signature.returnedProcessorModes = .ok modes) : signature.Matches .processor modes := by
  unfold returnedProcessorModes at h
  simp only [Descriptor.flavour_eq_carried, Kind.isBuilder_eq_decide] at h
  split at h
  next hparameters =>
    split at h
    next input output hinput houtput =>
      cases h
      exact .returnedProcessor hkind hparameters hinput houtput
    next => cases h
  next => cases h

theorem matches_of_streamPerItemModes (hsource : signature.returns.kind ∈ Kind.sources)
    (hprocessor : signature.returns.kind ∉ Kind.processors)
    (h : signature.streamPerItemModes = .ok modes) : signature.Matches .processor modes := by
  unfold streamPerItemModes at h
  simp only [Descriptor.produced?_eq_element?, Descriptor.flavour_eq_carried,
    Kind.isBuilder_eq_decide] at h
  split at h
  next parameter hparameters =>
    split at h
    next element helement =>
      cases h
      exact .streamPerItem hsource hprocessor hparameters helement
    next => cases h
  next => cases h

theorem matches_of_valuePerItemModes (hsource : signature.returns.kind ∉ Kind.sources)
    (hprocessor : signature.returns.kind ∉ Kind.processors)
    (h : signature.valuePerItemModes = .ok modes) : signature.Matches .processor modes := by
  unfold valuePerItemModes itemProduction at h
  simp only [Descriptor.flavour_eq_carried] at h
  split at h
  next hasync =>
    rw [Kind.isAsync_iff] at hasync
    split at h
    next value hvalue =>
      simp only [bind, Except.bind] at h
      split at h
      next parameter hparameters =>
        cases h
        exact .stagePerItem hasync hparameters hvalue
      next => cases h
    next => cases h
  next hasync =>
    rw [Kind.isAsync_iff] at hasync
    simp only [bind, Except.bind] at h
    split at h
    next parameter hparameters =>
      cases h
      exact .itemPerItem hsource hprocessor hasync hparameters
    next => cases h

theorem matches_of_processorModes (h : signature.processorModes = .ok modes) :
    signature.Matches .processor modes := by
  by_cases hprocessor : signature.returns.kind ∈ Kind.processors
  · rw [processorModes_eq_returnedProcessorModes hprocessor] at h
    exact matches_of_returnedProcessorModes hprocessor h
  · by_cases hsource : signature.returns.kind ∈ Kind.sources
    · rw [processorModes_eq_streamPerItemModes hsource hprocessor] at h
      exact matches_of_streamPerItemModes hsource hprocessor h
    · rw [processorModes_eq_valuePerItemModes hsource hprocessor] at h
      exact matches_of_valuePerItemModes hsource hprocessor h

theorem matches_of_modes {shape : Shape} (h : signature.modes shape = .ok modes) :
    signature.Matches shape modes := by
  cases shape with
  | publisher => exact matches_of_publisherModes h
  | subscriber => exact matches_of_subscriberModes h
  | processor => exact matches_of_processorModes h
  | streamTransformer => exact matches_of_streamTransformerModes h

theorem modes_of_matches {shape : Shape} (h : signature.Matches shape modes) :
    signature.modes shape = .ok modes := by
  cases h with
  | returnedSubscriber hkind hparameters helement =>
    unfold Signature.modes subscriberModes returnedSubscriberModes
    rw [if_pos ((Kind.isSubscriber_iff _).mpr hkind)]
    simp only [hparameters, Descriptor.consumed?, Descriptor.argument?, helement,
      Descriptor.flavour_eq_carried]
  | consumedItem hkind hparameters =>
    unfold Signature.modes subscriberModes
    rw [if_neg (mt (Kind.isSubscriber_iff _).mp hkind)]
    simp only [hparameters, Descriptor.flavour_eq_carried]
  | publishedStream hkind hparameters =>
    have hvoid : signature.returns.kind ≠ .void := ne_of_mem_of_not_mem hkind (by decide)
    unfold Signature.modes publisherModes publishedProduction
    rw [if_neg (mt (Kind.isVoid_iff _).mp hvoid), if_pos ((Kind.isStream_iff _).mpr hkind)]
    simp only [hparameters, Descriptor.produced?_eq_element?, Descriptor.flavour_eq_carried,
      Kind.isBuilderStream_eq_decide, bind, Except.bind]
  | publishedStage hasync hparameters hvalue =>
    unfold Signature.modes publisherModes publishedProduction
    rw [if_neg (by rw [hasync]; decide), if_neg (by rw [hasync]; decide),
      if_pos ((Kind.isAsync_iff _).mpr hasync)]
    simp only [hparameters, Descriptor.argument?, hvalue, hasync, Descriptor.flavour_eq_carried,
      bind, Except.bind]
    rfl
  | publishedItem hkind hasync hvoid hparameters =>
    have hbuilder : signature.returns.kind ≠ .streamBuilder :=
      (ne_of_mem_of_not_mem (by decide) hkind).symm
    unfold Signature.modes publisherModes publishedProduction
    rw [if_neg (mt (Kind.isVoid_iff _).mp hvoid), if_neg (mt (Kind.isStream_iff _).mp hkind),
      if_neg (mt (Kind.isAsync_iff _).mp hasync)]
    simp only [hparameters, Descriptor.flavour_eq_carried, Kind.isBuilderStream_eq_decide, hbuilder,
      decide_false, bind, Except.bind]
  | transformedStream hparameters hproduced hconsumed =>
    unfold Signature.modes streamTransformerModes
    simp only [hparameters, Descriptor.produced?_eq_element?, hproduced, hconsumed,
      Descriptor.flavour_eq_carried, Kind.isBuilder_eq_decide]
  | returnedProcessor hprocessor hparameters hinput houtput =>
    unfold Signature.modes
    rw [processorModes_eq_returnedProcessorModes hprocessor]
    unfold returnedProcessorModes
    simp only [hparameters, Descriptor.argument?, hinput, houtput, Descriptor.flavour_eq_carried,
      Kind.isBuilder_eq_decide]
  | streamPerItem hsource hprocessor hparameters helement =>
    unfold Signature.modes
    rw [processorModes_eq_streamPerItemModes hsource hprocessor]
    unfold streamPerItemModes
    simp only [hparameters, Descriptor.produced?_eq_element?, helement,
      Descriptor.flavour_eq_carried, Kind.isBuilder_eq_decide]
  | stagePerItem hasync hparameters hvalue =>
    unfold Signature.modes
    rw [processorModes_eq_valuePerItemModes (by rw [hasync]; decide) (by rw [hasync]; decide)]
    unfold valuePerItemModes itemProduction
    rw [if_pos ((Kind.isAsync_iff _).mpr hasync)]
    simp only [hparameters, Descriptor.argument?, hvalue, Descriptor.flavour_eq_carried, bind,
      Except.bind]
  | itemPerItem hsource hprocessor hasync hparameters =>
    unfold Signature.modes
    rw [processorModes_eq_valuePerItemModes hsource hprocessor]
    unfold valuePerItemModes itemProduction
    rw [if_neg (mt (Kind.isAsync_iff _).mp hasync)]
    simp only [hparameters, Descriptor.flavour_eq_carried, bind, Except.bind]

/--
A signature has modes under a shape exactly if a row of the table lists it with them.
-/
theorem modes_eq_ok_iff {shape : Shape} :
    signature.modes shape = .ok modes ↔ signature.Matches shape modes :=
  ⟨matches_of_modes, modes_of_matches⟩

end Signature

end Mediation

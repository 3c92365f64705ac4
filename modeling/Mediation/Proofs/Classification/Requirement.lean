import Mediation.Proofs.Classification.Pattern

/-!
This module contains the requirements that a shape makes of a signature, in the order in which they
are checked, and the proof that a signature without modes is reported for the first of them that it
violates.
-/

namespace Mediation

namespace Kind

def subscriberRequirements (kind : Kind) : List Mismatch :=
  if kind ∈ sinks then
    [.subscriberTakesNoParameters, .returnedSubscriberRaw]
  else if kind = .async then
    [.asyncTakesOneParameter]
  else
    [.unsupported]

def publisherRequirements (kind : Kind) : List Mismatch :=
  if kind = .async then
    [.voidReturn, .publisherTakesNoParameters, .publishedValueRaw]
  else
    [.voidReturn, .publisherTakesNoParameters]

def processorRequirements (kind : Kind) : List Mismatch :=
  if kind ∈ processors then
    [.processorTakesNoParameters, .returnedProcessorRaw]
  else if kind ∈ sources then
    [.oneParameterExpected, .returnedStreamRaw]
  else if kind = .async then
    -- Only here is a raw return type noticed before the number of parameters is.
    [.processedValueRaw, .oneParameterExpected]
  else
    [.oneParameterExpected]

/--
The requirements that a shape makes of the signatures that return a type of some kind, in the order
in which they are checked. A requirement goes by the mismatch that its violation is reported as.
-/
def requirements (kind : Kind) : Shape → List Mismatch
  | .subscriber => kind.subscriberRequirements
  | .publisher => kind.publisherRequirements
  | .streamTransformer => [.oneParameterExpected, .returnedStreamRaw, .consumedStreamRaw]
  | .processor => kind.processorRequirements

end Kind

namespace Mismatch

/--
How the violation of a requirement is reported: the name of the code, and the reason.
-/
inductive ReportedAs : Mismatch → String → String → Prop where
  | oneParameterExpected :
    ReportedAs .oneParameterExpected "ARITY_MISMATCH" "one parameter expected"
  | processorTakesNoParameters :
    ReportedAs .processorTakesNoParameters "ARITY_MISMATCH" "the method must not have parameters"
  | publisherTakesNoParameters :
    ReportedAs .publisherTakesNoParameters "ARITY_MISMATCH" "no parameters expected"
  | subscriberTakesNoParameters :
    ReportedAs .subscriberTakesNoParameters "ARITY_MISMATCH"
      "when returning a subscriber, no parameters are expected"
  | asyncTakesOneParameter :
    ReportedAs .asyncTakesOneParameter "ARITY_MISMATCH"
      "when returning an asynchronous value, one parameter is expected"
  | returnedStreamRaw :
    ReportedAs .returnedStreamRaw "MISSING_TYPE_ARGUMENT"
      "expected a type parameter for the returned stream"
  | consumedStreamRaw :
    ReportedAs .consumedStreamRaw "MISSING_TYPE_ARGUMENT"
      "expected a type parameter for the consumed stream"
  | returnedProcessorRaw :
    ReportedAs .returnedProcessorRaw "MISSING_TYPE_ARGUMENT"
      "expected 2 type parameters for the returned processor"
  | processedValueRaw :
    ReportedAs .processedValueRaw "MISSING_TYPE_ARGUMENT"
      "expected a type parameter in the return asynchronous value"
  | publishedValueRaw :
    ReportedAs .publishedValueRaw "MISSING_TYPE_ARGUMENT"
      "expected a type parameter for the returned asynchronous value"
  | returnedSubscriberRaw :
    ReportedAs .returnedSubscriberRaw "MISSING_TYPE_ARGUMENT"
      "the returned subscriber must declare a type parameter"
  | voidReturn : ReportedAs .voidReturn "VOID_RETURN" "the method must not be void"
  | unsupported : ReportedAs .unsupported "UNSUPPORTED_SIGNATURE" "unsupported signature"

theorem reportedAs_iff {mismatch : Mismatch} {code reason : String} :
    mismatch.ReportedAs code reason ↔ code = mismatch.code.name ∧ reason = mismatch.reason := by
  constructor
  · intro h
    cases h <;> exact ⟨rfl, rfl⟩
  · rintro ⟨rfl, rfl⟩
    cases mismatch <;> constructor

end Mismatch

namespace Signature

/--
Whether a signature violates the requirement behind a mismatch.
-/
def Violates (signature : Signature) : Mismatch → Prop
  | .oneParameterExpected | .asyncTakesOneParameter | .unsupported =>
    signature.parameters.length ≠ 1
  | .processorTakesNoParameters | .publisherTakesNoParameters | .subscriberTakesNoParameters =>
    signature.parameters.length ≠ 0
  | .returnedStreamRaw => signature.returns.element? = none
  | .consumedStreamRaw => signature.parameters.head?.bind Descriptor.element? = none
  | .returnedProcessorRaw =>
    signature.returns.arguments[0]? = none ∨ signature.returns.arguments[1]? = none
  | .processedValueRaw | .publishedValueRaw | .returnedSubscriberRaw =>
    signature.returns.arguments[0]? = none
  | .voidReturn => signature.returns.kind = .void

/--
A mismatch is the first of a list whose requirement a signature violates.
-/
inductive FirstViolated (signature : Signature) : List Mismatch → Mismatch → Prop where
  | head {mismatch : Mismatch} {rest : List Mismatch} :
    signature.Violates mismatch → FirstViolated signature (mismatch :: rest) mismatch
  | tail {passed mismatch : Mismatch} {rest : List Mismatch} :
    ¬signature.Violates passed → FirstViolated signature rest mismatch →
      FirstViolated signature (passed :: rest) mismatch

variable {signature : Signature} {modes : Modes} {shape : Shape}

theorem FirstViolated.violates {mismatch : Mismatch} {requirements : List Mismatch}
    (h : signature.FirstViolated requirements mismatch) : signature.Violates mismatch := by
  induction h with
  | head hviolates => exact hviolates
  | tail _ _ ih => exact ih

theorem FirstViolated.mem {mismatch : Mismatch} {requirements : List Mismatch}
    (h : signature.FirstViolated requirements mismatch) : mismatch ∈ requirements := by
  induction h with
  | head _ => exact List.mem_cons_self
  | tail _ _ ih => exact List.mem_cons_of_mem _ ih

/--
A signature is reported for the same mismatch as another one if it violates that requirement and
none that the other one meets.
-/
theorem FirstViolated.of_violates {other : Signature} {mismatch : Mismatch}
    {requirements : List Mismatch} (h : signature.FirstViolated requirements mismatch)
    (hviolates : other.Violates mismatch)
    (himp : ∀ passed ∈ requirements, other.Violates passed → signature.Violates passed) :
    other.FirstViolated requirements mismatch := by
  induction h with
  | head _ => exact .head hviolates
  | tail hpassed _ ih =>
    obtain ⟨hfirst, hrest⟩ := List.forall_mem_cons.mp himp
    exact .tail (mt hfirst hpassed) (ih hviolates hrest)

theorem FirstViolated.unique {first second : Mismatch} {requirements : List Mismatch}
    (hfirst : signature.FirstViolated requirements first)
    (hsecond : signature.FirstViolated requirements second) : first = second := by
  induction hfirst with
  | head hviolates =>
    cases hsecond with
    | head => rfl
    | tail hpassed => contradiction
  | tail hpassed _ ih =>
    cases hsecond with
    | head hviolates => contradiction
    | tail _ hrest => exact ih hrest

theorem not_violates_of_matches (h : signature.Matches shape modes) :
    ∀ mismatch ∈ signature.returns.kind.requirements shape, ¬signature.Violates mismatch := by
  cases h with
  | returnedSubscriber hkind hparameters helement =>
    rw [Kind.requirements, Kind.subscriberRequirements, if_pos hkind]
    simp [Violates, hparameters, helement]
  | consumedItem hkind hparameters =>
    rw [Kind.requirements, Kind.subscriberRequirements, if_neg hkind]
    split
    · simp [Violates, hparameters]
    · simp [Violates, hparameters]
  | publishedStream hkind hparameters =>
    have hasync : signature.returns.kind ≠ .async := ne_of_mem_of_not_mem hkind (by decide)
    have hvoid : signature.returns.kind ≠ .void := ne_of_mem_of_not_mem hkind (by decide)
    rw [Kind.requirements, Kind.publisherRequirements, if_neg hasync]
    simp [Violates, hvoid, hparameters]
  | publishedStage hasync hparameters hvalue =>
    rw [Kind.requirements, Kind.publisherRequirements, if_pos hasync]
    simp [Violates, hasync, hparameters, hvalue]
  | publishedItem _ hasync hvoid hparameters =>
    rw [Kind.requirements, Kind.publisherRequirements, if_neg hasync]
    simp [Violates, hvoid, hparameters]
  | transformedStream hparameters hproduced hconsumed =>
    rw [Kind.requirements]
    simp [Violates, hparameters, hproduced, hconsumed]
  | returnedProcessor hprocessor hparameters hinput houtput =>
    rw [Kind.requirements, Kind.processorRequirements, if_pos hprocessor]
    simp [Violates, hparameters, hinput, houtput]
  | streamPerItem hsource hprocessor hparameters helement =>
    rw [Kind.requirements, Kind.processorRequirements, if_neg hprocessor, if_pos hsource]
    simp [Violates, hparameters, helement]
  | stagePerItem hasync hparameters hvalue =>
    have hprocessor : signature.returns.kind ∉ Kind.processors := by rw [hasync]; decide
    have hsource : signature.returns.kind ∉ Kind.sources := by rw [hasync]; decide
    rw [Kind.requirements, Kind.processorRequirements, if_neg hprocessor, if_neg hsource,
      if_pos hasync]
    simp [Violates, hparameters, hvalue]
  | itemPerItem hsource hprocessor hasync hparameters =>
    rw [Kind.requirements, Kind.processorRequirements, if_neg hprocessor, if_neg hsource,
      if_neg hasync]
    simp [Violates, hparameters]

theorem length_parameters_ne_one
    (h : ∀ parameter, signature.parameters = [parameter] → False) :
    signature.parameters.length ≠ 1 := by
  intro hlength
  obtain ⟨parameter, hparameters⟩ := List.length_eq_one_iff.mp hlength
  exact h parameter hparameters

theorem length_parameters_ne_zero (h : signature.parameters = [] → False) :
    signature.parameters.length ≠ 0 := by
  intro hlength
  exact h (List.length_eq_zero_iff.mp hlength)

theorem firstViolated_of_subscriberModes {mismatch : Mismatch}
    (h : signature.subscriberModes = .error mismatch) :
    signature.FirstViolated signature.returns.kind.subscriberRequirements mismatch := by
  unfold subscriberModes at h
  unfold Kind.subscriberRequirements
  split at h
  next hkind =>
    rw [if_pos ((Kind.isSubscriber_iff _).mp hkind)]
    unfold returnedSubscriberModes at h
    split at h
    next hparameters =>
      split at h
      next => cases h
      next helement =>
        cases h
        refine .tail ?_ (.head helement)
        simp [Violates, hparameters]
    next hparameters =>
      cases h
      apply FirstViolated.head
      exact length_parameters_ne_zero hparameters
  next hkind =>
    rw [if_neg (mt (Kind.isSubscriber_iff _).mpr hkind)]
    split at h
    next => cases h
    next hparameters =>
      split at h
      next hasync =>
        cases h
        rw [if_pos ((Kind.isAsync_iff _).mp hasync)]
        apply FirstViolated.head
        exact length_parameters_ne_one hparameters
      next hasync =>
        cases h
        rw [if_neg (mt (Kind.isAsync_iff _).mpr hasync)]
        apply FirstViolated.head
        exact length_parameters_ne_one hparameters

theorem firstViolated_of_publisherModes {mismatch : Mismatch}
    (h : signature.publisherModes = .error mismatch) :
    signature.FirstViolated signature.returns.kind.publisherRequirements mismatch := by
  unfold publisherModes at h
  unfold Kind.publisherRequirements
  split at h
  next hvoid =>
    rw [Kind.isVoid_iff] at hvoid
    cases h
    split
    · exact .head hvoid
    · exact .head hvoid
  next hvoid =>
    rw [Kind.isVoid_iff] at hvoid
    split at h
    next hparameters =>
      unfold publishedProduction at h
      split at h
      next => cases h
      next =>
        split at h
        next hasync =>
          split at h
          next => cases h
          next hvalue =>
            cases h
            rw [if_pos ((Kind.isAsync_iff _).mp hasync)]
            refine .tail hvoid (.tail ?_ (.head hvalue))
            simp [Violates, hparameters]
        next => cases h
    next hparameters =>
      cases h
      split
      · exact .tail hvoid (.head (length_parameters_ne_zero hparameters))
      · exact .tail hvoid (.head (length_parameters_ne_zero hparameters))

theorem firstViolated_of_streamTransformerModes {mismatch : Mismatch}
    (h : signature.streamTransformerModes = .error mismatch) :
    signature.FirstViolated [.oneParameterExpected, .returnedStreamRaw, .consumedStreamRaw]
      mismatch := by
  unfold streamTransformerModes at h
  simp only [Descriptor.produced?_eq_element?] at h
  split at h
  next parameter hparameters =>
    have hone : ¬signature.Violates .oneParameterExpected := by simp [Violates, hparameters]
    split at h
    next hproduced =>
      cases h
      exact .tail hone (.head hproduced)
    next hproduced hconsumed =>
      cases h
      refine .tail hone (.tail ?_ (.head ?_))
      · simp [Violates, hproduced]
      · simpa [Violates, hparameters] using hconsumed
    next => cases h
  next hparameters =>
    cases h
    apply FirstViolated.head
    exact length_parameters_ne_one hparameters

theorem firstViolated_of_returnedProcessorModes {mismatch : Mismatch}
    (h : signature.returnedProcessorModes = .error mismatch) :
    signature.FirstViolated [.processorTakesNoParameters, .returnedProcessorRaw] mismatch := by
  unfold returnedProcessorModes Descriptor.argument? at h
  split at h
  next hparameters =>
    split at h
    next => cases h
    next hraw =>
      cases h
      refine .tail ?_ (.head ?_)
      · simp [Violates, hparameters]
      · cases hinput : signature.returns.arguments[0]? with
        | none => exact .inl hinput
        | some input =>
          cases houtput : signature.returns.arguments[1]? with
          | none => exact .inr houtput
          | some output => exact absurd houtput (hraw input output hinput)
  next hparameters =>
    cases h
    apply FirstViolated.head
    exact length_parameters_ne_zero hparameters

theorem firstViolated_of_streamPerItemModes {mismatch : Mismatch}
    (h : signature.streamPerItemModes = .error mismatch) :
    signature.FirstViolated [.oneParameterExpected, .returnedStreamRaw] mismatch := by
  unfold streamPerItemModes at h
  rw [Descriptor.produced?_eq_element?] at h
  split at h
  next parameter hparameters =>
    split at h
    next => cases h
    next helement =>
      cases h
      refine .tail ?_ (.head helement)
      simp [Violates, hparameters]
  next hparameters =>
    cases h
    apply FirstViolated.head
    exact length_parameters_ne_one hparameters

theorem firstViolated_of_valuePerItemModes {mismatch : Mismatch}
    (h : signature.valuePerItemModes = .error mismatch) :
    signature.FirstViolated
      (if signature.returns.kind = .async then [.processedValueRaw, .oneParameterExpected]
        else [.oneParameterExpected])
      mismatch := by
  unfold valuePerItemModes itemProduction at h
  split at h
  next hasync =>
    rw [if_pos ((Kind.isAsync_iff _).mp hasync)]
    split at h
    -- With the type argument present, the number of parameters is what is left to fail.
    next value hvalue =>
      simp only [bind, Except.bind] at h
      split at h
      next => cases h
      next hparameters =>
        cases h
        refine .tail ?_ (.head (length_parameters_ne_one hparameters))
        have hdeclared : signature.returns.arguments[0]? = some value := hvalue
        simp [Violates, hdeclared]
    next hvalue =>
      cases h
      exact .head hvalue
  next hasync =>
    rw [if_neg (mt (Kind.isAsync_iff _).mpr hasync)]
    simp only [bind, Except.bind] at h
    split at h
    next => cases h
    next hparameters =>
      cases h
      exact .head (length_parameters_ne_one hparameters)

theorem firstViolated_of_processorModes {mismatch : Mismatch}
    (h : signature.processorModes = .error mismatch) :
    signature.FirstViolated signature.returns.kind.processorRequirements mismatch := by
  unfold Kind.processorRequirements
  by_cases hprocessor : signature.returns.kind ∈ Kind.processors
  · rw [processorModes_eq_returnedProcessorModes hprocessor] at h
    rw [if_pos hprocessor]
    exact firstViolated_of_returnedProcessorModes h
  · by_cases hsource : signature.returns.kind ∈ Kind.sources
    · rw [processorModes_eq_streamPerItemModes hsource hprocessor] at h
      rw [if_neg hprocessor, if_pos hsource]
      exact firstViolated_of_streamPerItemModes h
    · rw [processorModes_eq_valuePerItemModes hsource hprocessor] at h
      rw [if_neg hprocessor, if_neg hsource]
      exact firstViolated_of_valuePerItemModes h

theorem firstViolated_of_modes {mismatch : Mismatch} (h : signature.modes shape = .error mismatch) :
    signature.FirstViolated (signature.returns.kind.requirements shape) mismatch := by
  cases shape with
  | publisher => exact firstViolated_of_publisherModes h
  | subscriber => exact firstViolated_of_subscriberModes h
  | processor => exact firstViolated_of_processorModes h
  | streamTransformer => exact firstViolated_of_streamTransformerModes h

/--
A signature is reported for a mismatch under a shape exactly if that mismatch is the first of the
requirements of the shape that it violates.
-/
theorem modes_eq_error_iff {mismatch : Mismatch} :
    signature.modes shape = .error mismatch ↔
      signature.FirstViolated (signature.returns.kind.requirements shape) mismatch := by
  constructor
  · exact firstViolated_of_modes
  · intro hfirst
    cases h : signature.modes shape with
    | ok modes =>
      have hpassed := not_violates_of_matches (matches_of_modes h) mismatch hfirst.mem
      exact absurd hfirst.violates hpassed
    | error reported => rw [hfirst.unique (firstViolated_of_modes h)]

end Signature

end Mediation

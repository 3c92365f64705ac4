import Mediation.Rejection

/-!
This module contains the ways in which a signature can miss the patterns of its shape.
-/

namespace Mediation

/--
The first requirement that a signature violates.
-/
inductive Mismatch where
  /-- A method that takes items or a stream has not exactly one parameter. -/
  | oneParameterExpected
  /-- A method that returns a processor has parameters. -/
  | processorTakesNoParameters
  /-- A publishing method has parameters. -/
  | publisherTakesNoParameters
  /-- A method that returns a subscriber has parameters. -/
  | subscriberTakesNoParameters
  /-- A consuming method that returns an asynchronous value has not exactly one parameter. -/
  | asyncTakesOneParameter
  /-- The returned stream does not declare what it emits. -/
  | returnedStreamRaw
  /-- The stream that is taken as a parameter does not declare what it emits. -/
  | consumedStreamRaw
  /-- The returned processor does not declare both what it accepts and what it emits. -/
  | returnedProcessorRaw
  /-- The asynchronous value that a processing method returns is not declared. -/
  | processedValueRaw
  /-- The asynchronous value that a publishing method returns is not declared. -/
  | publishedValueRaw
  /-- The returned subscriber does not declare what it accepts. -/
  | returnedSubscriberRaw
  /-- A publishing method returns nothing. -/
  | voidReturn
  /-- No pattern has the number of parameters of a consuming method. -/
  | unsupported
  deriving DecidableEq

namespace Mismatch

def code : Mismatch → Rejection.Code
  | oneParameterExpected | processorTakesNoParameters | publisherTakesNoParameters
  | subscriberTakesNoParameters | asyncTakesOneParameter => .arityMismatch
  | returnedStreamRaw | consumedStreamRaw | returnedProcessorRaw | processedValueRaw
  | publishedValueRaw | returnedSubscriberRaw => .missingTypeArgument
  | voidReturn => .voidReturn
  | unsupported => .unsupportedSignature

def reason : Mismatch → String
  | oneParameterExpected => "one parameter expected"
  | processorTakesNoParameters => "the method must not have parameters"
  | publisherTakesNoParameters => "no parameters expected"
  | subscriberTakesNoParameters => "when returning a subscriber, no parameters are expected"
  | asyncTakesOneParameter => "when returning an asynchronous value, one parameter is expected"
  | returnedStreamRaw => "expected a type parameter for the returned stream"
  | consumedStreamRaw => "expected a type parameter for the consumed stream"
  | returnedProcessorRaw => "expected 2 type parameters for the returned processor"
  | processedValueRaw => "expected a type parameter in the return asynchronous value"
  | publishedValueRaw => "expected a type parameter for the returned asynchronous value"
  | returnedSubscriberRaw => "the returned subscriber must declare a type parameter"
  | voidReturn => "the method must not be void"
  | unsupported => "unsupported signature"

def reject (mismatch : Mismatch) (context : Context) (signature : Signature) : Rejection :=
  .ofSignature mismatch.code context signature mismatch.reason

end Mismatch

end Mediation

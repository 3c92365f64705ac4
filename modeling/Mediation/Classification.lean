import Mediation.Configuration
import Mediation.Mismatch

/-!
This module contains the classification of mediators. The bindings of a declaration and, if both
sides are bound, the kinds of its return type and first parameter determine its shape. Each shape
has its own patterns, which determine how a matching signature consumes and produces.
-/

namespace Mediation

/--
The sides on which a message says that a method is bound whose signature misses the patterns of a
shape.
-/
def Shape.context : Shape → Context
  | .subscriber => .incoming
  | .publisher => .outgoing
  | .processor | .streamTransformer => .incomingOutgoing

namespace Signature

/--
The modes of a method that maps a stream to a stream. What the parameter emits is what the method
consumes.
-/
def streamTransformerModes (signature : Signature) : Except Mismatch Modes :=
  match signature.parameters with
  | [parameter] =>
    match signature.returns.produced?, parameter.produced? with
    | none, _ => .error .returnedStreamRaw
    | some _, none => .error .consumedStreamRaw
    | some produced, some consumed =>
      .ok
        {
          production := .stream produced.flavour
          consumption := .stream consumed.flavour
          usesBuilderTypes := signature.returns.kind.isBuilder
        }
  | _ => .error .oneParameterExpected

/--
The modes of a method that returns the processor between its channels.
-/
def returnedProcessorModes (signature : Signature) : Except Mismatch Modes :=
  match signature.parameters with
  | [] =>
    match signature.returns.argument? 0, signature.returns.argument? 1 with
    | some input, some output =>
      .ok
        {
          production := .stream output.flavour
          consumption := .stream input.flavour
          usesBuilderTypes := signature.returns.kind.isBuilder
        }
    | _, _ => .error .returnedProcessorRaw
  | _ => .error .processorTakesNoParameters

/--
The modes of a method that maps each item to a stream. Its consumption counts as one of a stream,
whose elements have the flavour of the parameter.
-/
def streamPerItemModes (signature : Signature) : Except Mismatch Modes :=
  match signature.parameters with
  | [parameter] =>
    match signature.returns.produced? with
    | some produced =>
      .ok
        {
          production := .stream produced.flavour
          consumption := .stream parameter.flavour
          usesBuilderTypes := signature.returns.kind.isBuilder
        }
    | none => .error .returnedStreamRaw
  | _ => .error .oneParameterExpected

/--
How a method that handles one item at a time hands on its result.
-/
def itemProduction (signature : Signature) : Except Mismatch Production :=
  if signature.returns.kind.isAsync then
    match signature.returns.argument? 0 with
    | some value => .ok (.completionStage value.flavour)
    | none => .error .processedValueRaw
  else
    .ok (.individual signature.returns.flavour)

/--
The modes of a method that returns a value for each item. A raw return type is reported before the
number of parameters is.
-/
def valuePerItemModes (signature : Signature) : Except Mismatch Modes := do
  let production ← signature.itemProduction
  match signature.parameters with
  | [parameter] => .ok { production, consumption := .item parameter.flavour }
  | _ => .error .oneParameterExpected

def processorModes (signature : Signature) : Except Mismatch Modes :=
  if signature.returns.kind.isProcessor then
    signature.returnedProcessorModes
  else if signature.returns.kind.isStream then
    signature.streamPerItemModes
  else
    signature.valuePerItemModes

/--
How a publishing method without parameters produces. A raw stream emits payloads.
-/
def publishedProduction (signature : Signature) : Except Mismatch Production :=
  if signature.returns.kind.isStream then
    .ok (.stream (signature.returns.produced?.elim .payload Descriptor.flavour))
  else if signature.returns.kind.isAsync then
    match signature.returns.argument? 0 with
    | some value => .ok (.completionStage value.flavour)
    | none => .error .publishedValueRaw
  else
    .ok (.individual signature.returns.flavour)

def publisherModes (signature : Signature) : Except Mismatch Modes :=
  if signature.returns.kind.isVoid then
    .error .voidReturn
  else
    match signature.parameters with
    | [] => do
      let production ← signature.publishedProduction
      .ok
        {
          production
          consumption := .none
          usesBuilderTypes := signature.returns.kind.isBuilderStream
        }
    | _ => .error .publisherTakesNoParameters

/--
The modes of a method that returns the subscriber of its channel.
-/
def returnedSubscriberModes (signature : Signature) : Except Mismatch Modes :=
  match signature.parameters with
  | [] =>
    match signature.returns.consumed? with
    | some consumed => .ok { production := .none, consumption := .stream consumed.flavour }
    | none => .error .returnedSubscriberRaw
  | _ => .error .subscriberTakesNoParameters

def subscriberModes (signature : Signature) : Except Mismatch Modes :=
  if signature.returns.kind.isSubscriber then
    signature.returnedSubscriberModes
  else
    match signature.parameters with
    | [parameter] => .ok { production := .none, consumption := .item parameter.flavour }
    | _ =>
      if signature.returns.kind.isAsync then
        .error .asyncTakesOneParameter
      else
        .error .unsupported

/--
Match a signature against the patterns of a shape.
-/
def modes (signature : Signature) : Shape → Except Mismatch Modes
  | .publisher => signature.publisherModes
  | .subscriber => signature.subscriberModes
  | .processor => signature.processorModes
  | .streamTransformer => signature.streamTransformerModes

end Signature

namespace Declaration

/--
A method that is bound on both sides transforms streams if it maps a stream to a stream, and
processes items otherwise.
-/
def shape (declaration : Declaration) : Shape :=
  match declaration.incoming, declaration.outgoing with
  | some _, some _ => if declaration.signature.mapsStreams then .streamTransformer else .processor
  | some _, none => .subscriber
  | none, _ => .publisher

def configure (declaration : Declaration) (modes : Modes) : Configuration :=
  { modes with
    identity := declaration.identity
    shape := declaration.shape
    incomingChannel := declaration.incoming.map (·.channel)
    outgoingChannel := declaration.outgoing.map (·.channel)
    incomingProvider := declaration.incoming.bind (·.provider)
    outgoingProvider := declaration.outgoing.bind (·.provider) }

/--
Classify a declaration, or report the first requirement of its shape that its signature violates.
-/
def classify (declaration : Declaration) : Except Rejection Configuration :=
  match declaration.signature.modes declaration.shape with
  | .ok modes => .ok (declaration.configure modes)
  | .error mismatch => .error (mismatch.reject declaration.shape.context declaration.signature)

end Declaration

end Mediation

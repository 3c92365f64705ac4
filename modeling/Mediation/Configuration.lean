import Mediation.Descriptor.Basic

/-!
This module contains what the classification of a mediator determines: its shape, and how one
invocation consumes its input and produces its output.
-/

namespace Mediation

/--
The role of a mediator between its channels.
-/
inductive Shape where
  | publisher
  | subscriber
  | processor
  | streamTransformer
  deriving DecidableEq

namespace Shape

def all : List Shape :=
  [.publisher, .subscriber, .processor, .streamTransformer]

def name : Shape → String
  | .publisher => "PUBLISHER"
  | .subscriber => "SUBSCRIBER"
  | .processor => "PROCESSOR"
  | .streamTransformer => "STREAM_TRANSFORMER"

end Shape

/--
What one invocation hands to the outgoing channel.
-/
inductive Production where
  | none
  | individual (flavour : Flavour)
  | completionStage (flavour : Flavour)
  | stream (flavour : Flavour)
  deriving DecidableEq

namespace Production

def all : List Production :=
  [.stream .message, .stream .payload, .individual .payload, .individual .message,
    .completionStage .payload, .completionStage .message, .none]

def name : Production → String
  | none => "NONE"
  | individual .payload => "INDIVIDUAL_PAYLOAD"
  | individual .message => "INDIVIDUAL_MESSAGE"
  | completionStage .payload => "COMPLETION_STAGE_OF_PAYLOAD"
  | completionStage .message => "COMPLETION_STAGE_OF_MESSAGE"
  | stream .payload => "STREAM_OF_PAYLOAD"
  | stream .message => "STREAM_OF_MESSAGE"

end Production

/--
What one invocation takes from the incoming channel.
-/
inductive Consumption where
  | none
  | item (flavour : Flavour)
  | stream (flavour : Flavour)
  deriving DecidableEq

namespace Consumption

def all : List Consumption :=
  [.stream .message, .stream .payload, .item .message, .item .payload, .none]

def name : Consumption → String
  | none => "NONE"
  | item .payload => "PAYLOAD"
  | item .message => "MESSAGE"
  | stream .payload => "STREAM_OF_PAYLOAD"
  | stream .message => "STREAM_OF_MESSAGE"

end Consumption

/--
The part of a configuration that a signature determines.
-/
structure Modes where
  production : Production
  consumption : Consumption
  usesBuilderTypes : Bool := false
  deriving DecidableEq

/--
What the wiring needs to know about a classified mediator.
-/
structure Configuration extends Modes where
  identity : String
  shape : Shape
  incomingChannel : Option String
  outgoingChannel : Option String
  incomingProvider : Option String
  outgoingProvider : Option String
  deriving DecidableEq

end Mediation

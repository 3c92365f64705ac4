/-!
This module contains type descriptors: how the return type and the parameters of a mediator method
are declared, and what a declared type is able to do.
-/

namespace Mediation

/--
What a declared type is to the classifier.
-/
inductive Kind where
  | payload
  | void
  | envelope
  | async
  | stream
  | streamBuilder
  | processor
  | processorBuilder
  | subscriber
  deriving DecidableEq

/--
Whether an element arrives bare or inside an envelope.
-/
inductive Flavour where
  | payload
  | message
  deriving DecidableEq

namespace Kind

/--
Every kind, in the order in which a message lists them.
-/
def all : List Kind :=
  [.payload, .void, .envelope, .async, .stream, .streamBuilder, .processor, .processorBuilder,
    .subscriber]

theorem mem_all (kind : Kind) : kind ∈ all := by
  cases kind <;> decide

def name : Kind → String
  | .payload => "payload"
  | .void => "void"
  | .envelope => "envelope"
  | .async => "async"
  | .stream => "stream"
  | .streamBuilder => "stream-builder"
  | .processor => "processor"
  | .processorBuilder => "processor-builder"
  | .subscriber => "subscriber"

def ofName? (name : String) : Option Kind :=
  all.find? (·.name == name)

@[simp]
theorem ofName?_name (kind : Kind) : ofName? kind.name = some kind := by
  cases kind <;> decide

theorem ofName?_eq_some_iff {text : String} {kind : Kind} :
    ofName? text = some kind ↔ text = kind.name := by
  constructor
  · intro h
    have hname : kind.name = text := by simpa using List.find?_some h
    exact hname.symm
  · rintro rfl
    apply ofName?_name

/--
The display name of a type that is declared without one.
-/
def defaultName : Kind → String
  | .payload => "Object"
  | .void => "void"
  | .envelope => "Message"
  | .async => "Promise"
  | .stream => "Publisher"
  | .streamBuilder => "PublisherBuilder"
  | .processor => "Processor"
  | .processorBuilder => "ProcessorBuilder"
  | .subscriber => "Subscriber"

/--
A stream source that is not wrapped in a builder. A processor is one, since it emits what it has
processed.
-/
def isRawStream : Kind → Bool
  | .stream | .processor => true
  | _ => false

def isBuilderStream : Kind → Bool
  | .streamBuilder => true
  | _ => false

def isStream (kind : Kind) : Bool :=
  kind.isRawStream || kind.isBuilderStream

def isProcessor : Kind → Bool
  | .processor | .processorBuilder => true
  | _ => false

/--
A stream sink. A processor is one, since it accepts what it is to process.
-/
def isSubscriber : Kind → Bool
  | .subscriber | .processor => true
  | _ => false

def isBuilder : Kind → Bool
  | .streamBuilder | .processorBuilder => true
  | _ => false

def isEnvelope : Kind → Bool
  | .envelope => true
  | _ => false

def isAsync : Kind → Bool
  | .async => true
  | _ => false

def isVoid : Kind → Bool
  | .void => true
  | _ => false

theorem isEnvelope_iff (kind : Kind) : kind.isEnvelope ↔ kind = .envelope := by
  cases kind <;> decide

theorem isAsync_iff (kind : Kind) : kind.isAsync ↔ kind = .async := by
  cases kind <;> decide

theorem isVoid_iff (kind : Kind) : kind.isVoid ↔ kind = .void := by
  cases kind <;> decide

/--
Only an envelope carries a message, every other kind counts as a payload.
-/
def flavour (kind : Kind) : Flavour :=
  if kind.isEnvelope then .message else .payload

end Kind

/--
A declared type: its kind, the name it is displayed under and its type arguments. A type without
arguments is declared raw.
-/
structure Descriptor where
  kind : Kind
  name : String
  arguments : List Descriptor

namespace Descriptor

def flavour (type : Descriptor) : Flavour :=
  type.kind.flavour

def argument? (type : Descriptor) (index : Nat) : Option Descriptor :=
  type.arguments[index]?

/--
The element that a stream source emits. A processor declares what it accepts before what it emits.
-/
def produced? (type : Descriptor) : Option Descriptor :=
  type.argument? (if type.kind.isProcessor then 1 else 0)

/--
The element that a stream sink accepts.
-/
def consumed? (type : Descriptor) : Option Descriptor :=
  type.argument? 0

end Descriptor

end Mediation

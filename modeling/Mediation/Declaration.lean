import Mediation.Json
import Mediation.Signature
import Mediation.Text.Blank

/-!
This module contains mediator declarations: a signature together with the channels that it is bound
to.
-/

namespace Mediation

/--
A channel that a method is bound to. The provider is a tag that the wiring reads, an empty one is
still a tag.
-/
structure Binding where
  channel : String
  provider : Option String
  deriving DecidableEq

/--
Write a binding, with its provider only if there is one.
-/
def Binding.toJson (binding : Binding) : Json :=
  .record
    [("channel", some (.string binding.channel)), ("provider", binding.provider.map .string)]

inductive Side where
  | incoming
  | outgoing
  deriving DecidableEq

namespace Side

/--
Both sides, in the order in which messages report them.
-/
def all : List Side :=
  [.incoming, .outgoing]

def name : Side → String
  | .incoming => "incoming"
  | .outgoing => "outgoing"

end Side

/--
The sides on which a method counts as bound in a message.
-/
inductive Context where
  | incoming
  | outgoing
  | incomingOutgoing
  deriving DecidableEq

namespace Context

def all : List Context :=
  [.incoming, .outgoing, .incomingOutgoing]

def name : Context → String
  | .incoming => "incoming"
  | .outgoing => "outgoing"
  | .incomingOutgoing => "incoming-outgoing"

def ofName? (name : String) : Option Context :=
  all.find? (·.name == name)

/--
How a message words the channels that a method is bound to.
-/
def label : Context → String
  | .incoming => "an incoming channel"
  | .outgoing => "an outgoing channel"
  | .incomingOutgoing => "incoming and outgoing channels"

end Context

structure Declaration where
  signature : Signature
  incoming : Option Binding
  outgoing : Option Binding

namespace Declaration

def identity (declaration : Declaration) : String :=
  declaration.signature.identity

def binding? (declaration : Declaration) : Side → Option Binding
  | .incoming => declaration.incoming
  | .outgoing => declaration.outgoing

/--
Whether the method is bound on at least one side, which is what makes it a mediator.
-/
def isBound (declaration : Declaration) : Bool :=
  declaration.incoming.isSome || declaration.outgoing.isSome

theorem isBound_iff {declaration : Declaration} :
    declaration.isBound ↔ declaration.incoming.isSome ∨ declaration.outgoing.isSome := by
  simp [isBound]

theorem isBound_eq_false_iff {declaration : Declaration} :
    declaration.isBound = false ↔ declaration.incoming = none ∧ declaration.outgoing = none := by
  simp [isBound]

/--
The sides that are bound to a channel with a blank name.
-/
def blankSides (declaration : Declaration) : List Side :=
  Side.all.filter fun side => (declaration.binding? side).any (Text.isBlankText ·.channel)

end Declaration

end Mediation

import Mediation.Descriptor.Basic

/-!
This module contains the construction of type descriptors from optional type arguments. Only trailing
arguments may be omitted, so an omission before a declared argument is the one thing that can go
wrong.
-/

namespace Mediation.Descriptor

/--
A type argument that is omitted although a later one is declared.
-/
structure Gap where
  name : String
  /-- The position of the first omitted argument. -/
  index : Nat
  deriving DecidableEq

/--
A type of any kind and display name. The declared arguments keep their positions and trailing
omissions vanish.
-/
def named (kind : Kind) (name : String) (arguments : List (Option Descriptor)) :
    Except Gap Descriptor := do
  let declared ← go 0 [] arguments
  return { kind, name, arguments := declared }
where
  /-- Collect the declared arguments, from a position on. As soon as one of them is omitted, fewer
  are collected than there are positions before the next one. -/
  go (position : Nat) (declared : List Descriptor) :
      List (Option Descriptor) → Except Gap (List Descriptor)
    | [] => return declared
    | none :: arguments => go (position + 1) declared arguments
    | some argument :: arguments =>
      if declared.length ≠ position then
        throw { name, index := declared.length }
      else
        go (position + 1) (declared ++ [argument]) arguments

def payload (name : String := Kind.payload.defaultName) : Descriptor :=
  { kind := .payload, name, arguments := [] }

def void : Descriptor :=
  { kind := .void, name := Kind.void.defaultName, arguments := [] }

/--
A type of any kind, under the default name of its kind.
-/
def ofKind (kind : Kind) (arguments : List (Option Descriptor)) : Except Gap Descriptor :=
  named kind kind.defaultName arguments

def envelope (payload : Option Descriptor) : Except Gap Descriptor :=
  ofKind .envelope [payload]

def async (value : Option Descriptor) : Except Gap Descriptor :=
  ofKind .async [value]

def stream (element : Option Descriptor) : Except Gap Descriptor :=
  ofKind .stream [element]

def streamBuilder (element : Option Descriptor) : Except Gap Descriptor :=
  ofKind .streamBuilder [element]

def subscriber (element : Option Descriptor) : Except Gap Descriptor :=
  ofKind .subscriber [element]

def processor (input output : Option Descriptor) : Except Gap Descriptor :=
  ofKind .processor [input, output]

def processorBuilder (input output : Option Descriptor) : Except Gap Descriptor :=
  ofKind .processorBuilder [input, output]

/--
A single argument cannot leave a gap.
-/
theorem named_singleton (kind : Kind) (name : String) (argument : Option Descriptor) :
    named kind name [argument] = .ok { kind, name, arguments := argument.toList } := by
  cases argument <;> rfl

/--
What is declared directly behind the arguments that have been collected is collected as well.
-/
theorem named.go_map_some_append (name : String) (declared types : List Descriptor)
    (arguments : List (Option Descriptor)) :
    go name declared.length declared (types.map some ++ arguments) =
      go name (declared ++ types).length (declared ++ types) arguments := by
  induction types generalizing declared with
  | nil => simp
  | cons type types ih =>
    have hrest := ih (declared ++ [type])
    rw [List.length_append, List.length_singleton, List.append_assoc] at hrest
    simpa [go] using hrest

/--
Arguments that are all declared leave no gap.
-/
theorem named_map_some (kind : Kind) (name : String) (arguments : List Descriptor) :
    named kind name (arguments.map some) = .ok { kind, name, arguments } := by
  have hgo := named.go_map_some_append name [] arguments []
  rw [List.append_nil, List.nil_append, List.length_nil] at hgo
  unfold named
  rw [hgo]
  rfl

end Mediation.Descriptor

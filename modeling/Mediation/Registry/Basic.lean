import Mediation.Classification
import Mediation.Fault

/-!
This module contains the registry of mediators, in which declarations are collected before they are
classified together.
-/

namespace Mediation

/--
The declarations in the order of their registration, and the configurations that the last pass over
them has left.
-/
structure Registry where
  /-- Whether a pass stops at the first declaration that it rejects. -/
  failFast : Bool
  declarations : List Declaration
  configurations : List Configuration

namespace Registry

def empty (failFast : Bool) : Registry :=
  { failFast, declarations := [], configurations := [] }

def identities (registry : Registry) : List String :=
  registry.declarations.map (·.identity)

def has (registry : Registry) (identity : String) : Bool :=
  registry.identities.contains identity

/--
The configuration that the last pass has left for an identity.
-/
def get? (registry : Registry) (identity : String) : Option Configuration :=
  registry.configurations.find? (·.identity == identity)

/--
Add a declaration behind all others. Of several faults, a missing binding is reported before a taken
identity, and a taken identity before blank channels.
-/
def register (registry : Registry) (declaration : Declaration) : Except Fault Registry :=
  if !declaration.isBound then
    .error (.notAMediator declaration.identity)
  else if registry.has declaration.identity then
    .error (.alreadyRegistered declaration.identity)
  else
    match declaration.blankSides with
    | [] => .ok { registry with declarations := registry.declarations ++ [declaration] }
    | sides => .error (.blankChannels declaration.identity sides)

/--
The outcome of registering several declarations.
-/
structure Import where
  registry : Registry
  accepted : List Declaration
  /-- What kept the next declaration from being added. -/
  fault? : Option Fault

/--
Add declarations one after the other, up to the first that is at fault.
-/
def registerAll (registry : Registry) : List Declaration → Import
  | [] => { registry, accepted := [], fault? := none }
  | declaration :: declarations =>
    match registry.register declaration with
    | .ok registry =>
      let next := registry.registerAll declarations
      { next with accepted := declaration :: next.accepted }
    | .error fault => { registry, accepted := [], fault? := some fault }

theorem register_eq_ok {registry next : Registry} {declaration : Declaration}
    (h : registry.register declaration = .ok next) :
    next = { registry with declarations := registry.declarations ++ [declaration] } := by
  unfold register at h
  split at h
  · cases h
  · split at h
    · cases h
    · split at h <;> cases h
      rfl

/--
A declaration that is accepted is added behind all others, and nothing else changes.
-/
theorem registerAll_registry (registry : Registry) (declarations : List Declaration) :
    (registry.registerAll declarations).registry =
      { registry with
        declarations :=
          registry.declarations ++ (registry.registerAll declarations).accepted } := by
  induction declarations generalizing registry with
  | nil => simp [registerAll]
  | cons declaration declarations ih =>
    unfold registerAll
    split
    next next h =>
      rw [ih next]
      simp [register_eq_ok h]
    next => simp

/--
What is accepted is what stands before the declaration at fault.
-/
theorem accepted_registerAll_isPrefix (registry : Registry) (declarations : List Declaration) :
    (registry.registerAll declarations).accepted <+: declarations := by
  induction declarations generalizing registry with
  | nil => simp [registerAll]
  | cons declaration declarations ih =>
    unfold registerAll
    split
    next next h => simpa using ih next
    next => simp

end Registry

end Mediation

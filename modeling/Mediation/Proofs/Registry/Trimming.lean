import Mediation.Proofs.Metadata.RoundTrip
import Mediation.Registry.Pass

/-!
This module contains the trimming of channels in everything that holds them. Registering and
classifying declarations can be done before it or after it.
-/

namespace Mediation

def Binding.trimmed (binding : Binding) : Binding :=
  { binding with channel := Text.trim binding.channel }

def Declaration.trimmed (declaration : Declaration) : Declaration :=
  { declaration with
    incoming := declaration.incoming.map Binding.trimmed
    outgoing := declaration.outgoing.map Binding.trimmed }

def Configuration.trimmed (configuration : Configuration) : Configuration :=
  { configuration with
    incomingChannel := configuration.incomingChannel.map Text.trim
    outgoingChannel := configuration.outgoingChannel.map Text.trim }

def Registry.trimmed (registry : Registry) : Registry :=
  { registry with
    declarations := registry.declarations.map Declaration.trimmed
    configurations := registry.configurations.map Configuration.trimmed }

namespace Declaration

theorem binding?_trimmed (declaration : Declaration) (side : Side) :
    declaration.trimmed.binding? side = (declaration.binding? side).map Binding.trimmed := by
  cases side <;> rfl

theorem IsExpressible.trimmed_eq {declaration : Declaration} (h : declaration.IsExpressible) :
    declaration.trimmed = declaration := by
  have hbinding (side : Side) :
      (declaration.binding? side).map Binding.trimmed = declaration.binding? side := by
    cases hside : declaration.binding? side with
    | none => rfl
    | some binding =>
      obtain ⟨_, htrim⟩ := h.channels side binding hside
      rw [Option.map_some, Binding.trimmed, htrim]
  have hincoming : declaration.incoming.map Binding.trimmed = declaration.incoming :=
    hbinding .incoming
  have houtgoing : declaration.outgoing.map Binding.trimmed = declaration.outgoing :=
    hbinding .outgoing
  rw [trimmed, hincoming, houtgoing]

theorem isBound_trimmed (declaration : Declaration) :
    declaration.trimmed.isBound = declaration.isBound := by
  simp [isBound, trimmed]

theorem blankSides_trimmed (declaration : Declaration) :
    declaration.trimmed.blankSides = declaration.blankSides := by
  unfold blankSides
  congr 1
  funext side
  rw [binding?_trimmed, Option.any_map]
  simp [Binding.trimmed, Text.isBlankText_trim]

theorem shape_trimmed (declaration : Declaration) :
    declaration.trimmed.shape = declaration.shape := by
  rcases declaration with ⟨_, _ | _, _ | _⟩ <;> rfl

theorem configure_trimmed (declaration : Declaration) (modes : Modes) :
    declaration.trimmed.configure modes = (declaration.configure modes).trimmed := by
  unfold configure
  rw [shape_trimmed]
  rcases declaration with ⟨_, _ | _, _ | _⟩ <;> rfl

theorem classify_trimmed (declaration : Declaration) :
    declaration.trimmed.classify = declaration.classify.map Configuration.trimmed := by
  have hsignature : declaration.trimmed.signature = declaration.signature := by rfl
  unfold classify
  rw [shape_trimmed, hsignature]
  cases declaration.signature.modes declaration.shape with
  | ok modes =>
    dsimp only
    rw [configure_trimmed]
    rfl
  | error mismatch => rfl

end Declaration

theorem Report.configurations_ofOutcomes_map (f : Configuration → Configuration)
    (outcomes : List (Except Rejection Configuration)) :
    (ofOutcomes (outcomes.map (Except.map f))).configurations =
      (ofOutcomes outcomes).configurations.map f := by
  induction outcomes with
  | nil => rfl
  | cons outcome outcomes ih =>
    cases outcome with
    | ok configuration => simp [ofOutcomes, Except.map, ih]
    | error rejection => simpa [ofOutcomes, Except.map] using ih

namespace Registry

theorem classifyAll_map_trimmed (failFast : Bool) (declarations : List Declaration) :
    classifyAll failFast (declarations.map Declaration.trimmed) =
      (classifyAll failFast declarations).map (Except.map Configuration.trimmed) := by
  induction declarations with
  | nil => rfl
  | cons declaration declarations ih =>
    rw [List.map_cons, classifyAll, classifyAll, declaration.classify_trimmed]
    cases declaration.classify with
    | ok configuration => simp [Except.map, ih]
    | error rejection => cases failFast <;> simp [Except.map, ih]

variable {registry : Registry}

theorem identities_trimmed (registry : Registry) :
    registry.trimmed.identities = registry.identities := by
  unfold identities
  simp only [trimmed, List.map_map]
  rfl

theorem afterPass_trimmed (registry : Registry) :
    registry.trimmed.afterPass = registry.afterPass.trimmed := by
  unfold afterPass report outcomes
  simp only [trimmed, classifyAll_map_trimmed, Report.configurations_ofOutcomes_map]

theorem register_trimmed (registry : Registry) (declaration : Declaration) :
    registry.trimmed.register declaration.trimmed =
      (registry.register declaration).map trimmed := by
  unfold register has
  rw [declaration.isBound_trimmed, identities_trimmed, declaration.blankSides_trimmed]
  change (if _ then _ else if registry.identities.contains declaration.identity then _ else _) = _
  split
  next => rfl
  next =>
    split
    next => rfl
    next =>
      cases declaration.blankSides with
      | nil => simp [Except.map, trimmed]
      | cons => rfl

theorem registerAll_trimmed (registry : Registry) (declarations : List Declaration) :
    (registry.trimmed.registerAll (declarations.map Declaration.trimmed)).registry =
      (registry.registerAll declarations).registry.trimmed := by
  induction declarations generalizing registry with
  | nil => rfl
  | cons declaration declarations ih =>
    rw [List.map_cons, registerAll, registerAll, register_trimmed]
    cases registry.register declaration with
    | ok next => exact ih next
    | error fault => rfl

theorem get?_trimmed (registry : Registry) (identity : String) :
    registry.trimmed.get? identity = (registry.get? identity).map Configuration.trimmed := by
  unfold get? trimmed
  rw [List.find?_map]
  rfl

end Registry

end Mediation

import Mediation.Proofs.Metadata.RoundTrip
import Mediation.Proofs.Registry.Admission
import Mediation.Proofs.Registry.Growth

/-!
This module contains the transfer of declarations between registries by means of metadata. Importing
what is written of declarations is registering them by hand, and a registry that metadata alone has
filled is filled again by what is written of it.
-/

namespace Mediation.Registry

/--
Take steps one after the other, up to and including the first that is at fault. What is left is the
registry and the answer of the last step that was taken, and the events of all of them.
-/
def runUntilFault (registry : Registry) : List Step → Turn
  | [] => { registry, answer := .ok .done, events := [] }
  | step :: steps =>
    let turn := registry.step step
    match turn.answer with
    | .ok _ =>
      let rest := turn.registry.runUntilFault steps
      { rest with events := turn.events ++ rest.events }
    | .error _ => turn

theorem runUntilFault_register (registry : Registry) (declarations : List Declaration) :
    registry.runUntilFault (declarations.map .register) =
      {
        registry := (registry.registerAll declarations).registry
        answer := (registry.registerAll declarations).fault?.elim (.ok .done) .error
        events := (registry.registerAll declarations).accepted.map .registered
      } := by
  induction declarations generalizing registry with
  | nil => rfl
  | cons declaration declarations ih =>
    rw [List.map_cons, runUntilFault, registerAll]
    cases hregister : registry.register declaration with
    | ok next =>
      rw [step_register_of_ok hregister]
      dsimp only
      rw [ih]
      rfl
    | error fault =>
      rw [step_register_of_error hregister]
      rfl

theorem step_importManifest_encode (registry : Registry) {declarations : List Declaration}
    (h : ∀ declaration ∈ declarations, declaration.IsExpressible) :
    registry.step (.importManifest (some (Metadata.encode declarations))) =
      registry.runUntilFault (declarations.map .register) := by
  rw [step_importManifest_of_ok registry (Metadata.parseManifest_encode h), runUntilFault_register]

variable {registry : Registry} {step : Step} {steps : List Step}

theorem isExpressible_step (hstep : ∀ declaration, step ≠ .register declaration)
    (h : ∀ declaration ∈ registry.declarations, declaration.IsExpressible) :
    ∀ declaration ∈ (registry.step step).registry.declarations, declaration.IsExpressible := by
  cases step with
  | register declaration => exact absurd rfl (hstep declaration)
  | importManifest input =>
    cases hparse : Metadata.parseManifest input with
    | ok declarations =>
      rw [step_importManifest_of_ok registry hparse]
      dsimp only
      rw [registerAll_registry]
      intro declaration hmem
      rcases List.mem_append.mp hmem with hmem | hmem
      · exact h declaration hmem
      · have hsource := (accepted_registerAll_isPrefix registry declarations).mem hmem
        exact Metadata.isExpressible_of_parseManifest hparse declaration hsource
    | error fault =>
      rw [step_importManifest_of_error registry hparse]
      exact h
  | compute => exact h
  | build =>
    rw [step_build_registry]
    exact h
  | has identity => exact h
  | get identity => exact h
  | list => exact h

theorem isExpressible_after (hsteps : ∀ step ∈ steps, ∀ declaration, step ≠ .register declaration)
    (h : ∀ declaration ∈ registry.declarations, declaration.IsExpressible) :
    ∀ declaration ∈ (registry.after steps).declarations, declaration.IsExpressible := by
  induction steps generalizing registry with
  | nil => exact h
  | cons step steps ih =>
    obtain ⟨hstep, hrest⟩ := List.forall_mem_cons.mp hsteps
    rw [after_cons]
    apply ih hrest
    exact isExpressible_step hstep h

/--
What a caller can tell of a turn that has filled an empty registry with the declarations of another
one: it holds them in the same order, and from the next pass on it is the other one.
-/
structure Turn.Restores (registry : Registry) (turn : Turn) : Prop where
  answer : turn.answer = .ok .done
  registry_eq : turn.registry = { registry with configurations := [] }
  events : turn.events = registry.declarations.map .registered
  pass : ∀ step, step.IsPass → turn.registry.step step = registry.step step

theorem WellFormed.restores (h : registry.WellFormed)
    (hexpressible : ∀ declaration ∈ registry.declarations, declaration.IsExpressible) :
    ((empty registry.failFast).step
      (.importManifest (some (Metadata.encode registry.declarations)))).Restores registry := by
  rw [step_importManifest_encode _ hexpressible, runUntilFault_register,
    (h.admits_declarations registry.failFast).registerAll_eq]
  constructor
  · rfl
  · rfl
  · rfl
  · intro step hpass
    cases hpass with
    | compute => rfl
    | build => rfl

/--
Declarations come back from metadata as they went into it, and no others ever come from it, so that
what is read of metadata is what is read of it once it is written again. Importing what is written
of declarations is registering them one by one, and a registry that only ever imported metadata is
restored from what is written of its declarations.
-/
theorem declarations_survive_metadata :
    (∀ declarations : List Declaration,
      (∀ declaration ∈ declarations, declaration.IsExpressible) →
        Metadata.parseManifest (some (Metadata.encode declarations)) = .ok declarations ∧
          ∀ registry : Registry,
            registry.step (.importManifest (some (Metadata.encode declarations))) =
              registry.runUntilFault (declarations.map .register)) ∧
    (∀ input declarations,
      Metadata.parseManifest input = .ok declarations →
        (∀ declaration ∈ declarations, declaration.IsExpressible) ∧
          Metadata.parseManifest (some (Metadata.encode declarations)) = .ok declarations) ∧
    (∀ failFast steps,
      (∀ step ∈ steps, ∀ declaration, step ≠ .register declaration) →
        ∃ declarations,
          (((empty failFast).after steps).step .list).answer = .ok (.declarations declarations) ∧
            ((empty failFast).step
              (.importManifest (some (Metadata.encode declarations)))).Restores
              ((empty failFast).after steps)) := by
  refine ⟨?_, ?_, ?_⟩
  · intro declarations h
    constructor
    · exact Metadata.parseManifest_encode h
    · intro registry
      exact step_importManifest_encode registry h
  · intro input declarations hparse
    have h := Metadata.isExpressible_of_parseManifest hparse
    exact ⟨h, Metadata.parseManifest_encode h⟩
  · intro failFast steps hsteps
    have hwellFormed := (wellFormed_empty failFast).after steps
    have hrestores := hwellFormed.restores (isExpressible_after hsteps (List.forall_mem_nil _))
    rw [failFast_after] at hrestores
    exact ⟨_, rfl, hrestores⟩

theorem declarations_survive_metadata_nested :
    let declaration : Declaration :=
      {
        signature :=
          {
            identity := "Prices#enrich"
            returns := ⟨.stream, "Publisher", [⟨.envelope, "Message", [.payload "Price"]⟩]⟩
            parameters := [⟨.payload, "Tick", [.void]⟩]
          }
        incoming := some { channel := "ticks", provider := some "" }
        outgoing := none
      }
    declaration.IsExpressible ∧
      Metadata.parseManifest (some (Metadata.encode [declaration])) = .ok [declaration] := by
  intro declaration
  have hexpressible : declaration.IsExpressible := by
    constructor
    · decide
    · refine .mk (by decide) (List.forall_mem_singleton.mpr ?_)
      refine .mk (by decide) (List.forall_mem_singleton.mpr ?_)
      exact .leaf (by decide)
    · refine List.forall_mem_singleton.mpr (.mk (by decide) (List.forall_mem_singleton.mpr ?_))
      exact .leaf (by decide)
    · rintro (_ | _) binding ⟨⟩
      exact ⟨by decide, rfl⟩
  obtain ⟨htransfer, _⟩ := declarations_survive_metadata
  exact ⟨hexpressible, (htransfer _ (List.forall_mem_singleton.mpr hexpressible)).1⟩

end Mediation.Registry

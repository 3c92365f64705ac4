import Mediation.Registry.Run

/-!
This module contains the registries that a run goes through, and the principle by which whatever the
registration of one declaration and a single pass preserve holds all along a run.
-/

namespace Mediation.Registry

theorem register_eq_ok_iff {registry next : Registry} {declaration : Declaration} :
    registry.register declaration = .ok next ↔
      declaration.isBound ∧ declaration.identity ∉ registry.identities ∧
        declaration.blankSides = [] ∧
          next = { registry with declarations := registry.declarations ++ [declaration] } := by
  unfold register has
  constructor
  · intro h
    split at h
    next => cases h
    next hbound =>
      split at h
      next => cases h
      next hfresh =>
        split at h
        next hsides =>
          cases h
          exact ⟨by simpa using hbound, by simpa using hfresh, hsides, rfl⟩
        next => cases h
  · rintro ⟨hbound, hfresh, hsides, rfl⟩
    simp [hbound, hfresh, hsides]

theorem identities_of_register {registry next : Registry} {declaration : Declaration}
    (h : registry.register declaration = .ok next) :
    next.identities = registry.identities ++ [declaration.identity] := by
  rw [register_eq_ok h]
  exact List.map_append

theorem register_with (registry : Registry) (failFast : Bool)
    (configurations : List Configuration) (declaration : Declaration) :
    register { registry with failFast, configurations } declaration =
      (registry.register declaration).map fun next => { next with failFast, configurations } := by
  unfold register
  split
  next => rfl
  next =>
    -- Which identities are taken does not depend on the fields that are replaced.
    change (if registry.has declaration.identity then _ else _) = _
    split
    next => rfl
    next => cases declaration.blankSides <;> rfl

theorem registerAll_with (registry : Registry) (failFast : Bool)
    (configurations : List Configuration) (declarations : List Declaration) :
    registerAll { registry with failFast, configurations } declarations =
      { registry.registerAll declarations with
        registry :=
          { (registry.registerAll declarations).registry with failFast, configurations } } := by
  induction declarations generalizing registry with
  | nil => rfl
  | cons declaration declarations ih =>
    rw [registerAll, registerAll, register_with]
    cases registry.register declaration with
    | ok next =>
      dsimp only [Except.map]
      rw [ih]
    | error fault => rfl

theorem step_register_of_ok {registry next : Registry} {declaration : Declaration}
    (h : registry.register declaration = .ok next) :
    registry.step (.register declaration) =
      { registry := next, answer := .ok .done, events := [.registered declaration] } := by
  unfold Registry.step
  dsimp only
  rw [h]

theorem step_register_of_error {registry : Registry} {declaration : Declaration} {fault : Fault}
    (h : registry.register declaration = .error fault) :
    registry.step (.register declaration) = { registry, answer := .error fault, events := [] } := by
  unfold Registry.step
  dsimp only
  rw [h]

theorem step_importManifest_of_ok {input : Option Json} {declarations : List Declaration}
    (registry : Registry) (h : Metadata.parseManifest input = .ok declarations) :
    registry.step (.importManifest input) =
      {
        registry := (registry.registerAll declarations).registry
        answer := (registry.registerAll declarations).fault?.elim (.ok .done) .error
        events := (registry.registerAll declarations).accepted.map .registered
      } := by
  unfold Registry.step
  dsimp only
  rw [h]

theorem step_importManifest_of_error {input : Option Json} {fault : Fault}
    (registry : Registry) (h : Metadata.parseManifest input = .error fault) :
    registry.step (.importManifest input) = { registry, answer := .error fault, events := [] } := by
  unfold Registry.step
  dsimp only
  rw [h]

theorem step_build_registry (registry : Registry) :
    (registry.step .build).registry = registry.afterPass := by
  unfold Registry.step
  dsimp only
  split
  next => rfl
  next => rfl

theorem step_build_answer (registry : Registry) :
    (registry.step .build).answer = registry.report.complete.map .configurations := by
  unfold Registry.step
  dsimp only
  split
  next configurations h => rw [h, Except.map]
  next fault h => rw [h, Except.map]

def after (registry : Registry) (steps : List Step) : Registry :=
  (registry.run steps).getLast?.elim registry (·.registry)

@[simp]
theorem after_nil (registry : Registry) : registry.after [] = registry := by
  rfl

@[simp]
theorem after_cons (registry : Registry) (step : Step) (steps : List Step) :
    registry.after (step :: steps) = (registry.step step).registry.after steps := by
  unfold after
  rw [run, List.getLast?_cons]
  cases (registry.step step).registry.run steps |>.getLast? <;> rfl

theorem after_append (registry : Registry) (steps more : List Step) :
    registry.after (steps ++ more) = (registry.after steps).after more := by
  induction steps generalizing registry with
  | nil => rfl
  | cons step steps ih => rw [List.cons_append, after_cons, after_cons, ih]

variable {motive : Registry → Prop}

theorem registerAll_preserves
    (hregister : ∀ {registry declaration next},
      registry.register declaration = .ok next → motive registry → motive next)
    (registry : Registry) (declarations : List Declaration) (h : motive registry) :
    motive (registry.registerAll declarations).registry := by
  induction declarations generalizing registry with
  | nil => exact h
  | cons declaration declarations ih =>
    unfold registerAll
    split
    next next hnext =>
      apply ih
      exact hregister hnext h
    next => exact h

theorem step_preserves
    (hregister : ∀ {registry declaration next},
      registry.register declaration = .ok next → motive registry → motive next)
    (hpass : ∀ {registry}, motive registry → motive registry.afterPass)
    (registry : Registry) (step : Step) (h : motive registry) :
    motive (registry.step step).registry := by
  cases step with
  | register declaration =>
    unfold Registry.step
    dsimp only
    split
    next next hnext => exact hregister hnext h
    next => exact h
  | importManifest input =>
    unfold Registry.step
    dsimp only
    split
    next declarations _ => exact registerAll_preserves hregister registry declarations h
    next => exact h
  | compute => exact hpass h
  | build =>
    rw [step_build_registry]
    exact hpass h
  | has identity => exact h
  | get identity => exact h
  | list => exact h

/--
What a single registration and a single pass preserve, every run preserves.
-/
theorem after_preserves
    (hregister : ∀ {registry declaration next},
      registry.register declaration = .ok next → motive registry → motive next)
    (hpass : ∀ {registry}, motive registry → motive registry.afterPass)
    (registry : Registry) (steps : List Step) (h : motive registry) :
    motive (registry.after steps) := by
  induction steps generalizing registry with
  | nil => exact h
  | cons step steps ih =>
    rw [after_cons]
    apply ih
    exact step_preserves hregister hpass registry step h

theorem failFast_after (registry : Registry) (steps : List Step) :
    (registry.after steps).failFast = registry.failFast := by
  apply after_preserves (motive := fun next => next.failFast = registry.failFast)
  · intro current declaration next hnext hcurrent
    rw [register_eq_ok hnext]
    exact hcurrent
  · intro current hcurrent
    exact hcurrent
  · rfl

end Mediation.Registry

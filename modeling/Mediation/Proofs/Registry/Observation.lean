import Mathlib.Data.List.Forall2
import Mathlib.Data.List.Nodup
import Mediation.Proofs.Registry.Growth

/-!
This module contains what it takes to observe a registry. Passes and queries leave nothing behind
but the configurations of the last pass, so that a run goes on the same without them, and those
configurations are what can be looked up.
-/

namespace Mediation

namespace Report

theorem identities_sublist (failFast : Bool) (declarations : List Declaration) :
    ((ofDeclarations failFast declarations).configurations.map (·.identity)).Sublist
      (declarations.map (·.identity)) := by
  induction declarations with
  | nil => rfl
  | cons declaration declarations ih =>
    cases h : declaration.classify with
    | ok configuration =>
      rw [ofDeclarations_cons_of_ok h, List.map_cons, List.map_cons,
        Declaration.identity_eq_of_classify h]
      exact ih.cons_cons _
    | error rejection =>
      cases failFast with
      | false =>
        rw [ofDeclarations_false_cons_of_error h]
        exact ih.cons _
      | true =>
        rw [ofDeclarations_true_cons_of_error h]
        apply List.nil_sublist

end Report

namespace Registry

/--
The steps that leave the declarations of a registry alone.
-/
inductive Step.Observes : Step → Prop where
  | compute : Observes .compute
  | build : Observes .build
  | has (identity : String) : Observes (.has identity)
  | get (identity : String) : Observes (.get identity)
  | list : Observes .list

/--
What is left of a list when the elements at the erased positions are taken out.
-/
def without (erased : Nat → Bool) : List α → List α
  | [] => []
  | a :: as =>
    let rest := without (fun position => erased (position + 1)) as
    if erased 0 then rest else a :: rest

/--
Two moments at which a caller takes the same step and sees the same. What a look-up answers is not
compared.
-/
structure Moment.Agrees (left right : Moment) : Prop where
  step : left.step = right.step
  identities : left.turn.registry.identities = right.turn.registry.identities
  answer : (∀ identity, left.step ≠ .get identity) → left.turn.answer = right.turn.answer

/--
Two registries that differ at most in the configurations that a pass has left.
-/
structure SameDeclarations (left right : Registry) : Prop where
  failFast : left.failFast = right.failFast
  declarations : left.declarations = right.declarations

variable {left right : Registry}

theorem SameDeclarations.eq_with (h : SameDeclarations left right) :
    left =
      { right with failFast := right.failFast, configurations := left.configurations } := by
  rcases left with ⟨failFast, declarations, configurations⟩
  rw [Registry.mk.injEq]
  exact ⟨h.failFast, h.declarations, rfl⟩

theorem SameDeclarations.agrees {step : Step} {leftTurn rightTurn : Turn}
    (h : SameDeclarations leftTurn.registry rightTurn.registry)
    (answer : (∀ identity, step ≠ .get identity) → leftTurn.answer = rightTurn.answer) :
    SameDeclarations leftTurn.registry rightTurn.registry ∧
      Moment.Agrees { step, turn := leftTurn } { step, turn := rightTurn } := by
  constructor
  · exact h
  · constructor
    · rfl
    · unfold identities
      rw [h.declarations]
    · exact answer

theorem SameDeclarations.step (h : SameDeclarations left right) (step : Step) :
    SameDeclarations (left.step step).registry (right.step step).registry ∧
      Moment.Agrees
        { step, turn := left.step step }
        { step, turn := right.step step } := by
  -- Only the configurations tell the two apart, and only a look-up reads them.
  rw [h.eq_with]
  cases step with
  | register declaration =>
    have hleft := register_with right right.failFast left.configurations declaration
    cases hright : right.register declaration with
    | ok next =>
      rw [hright] at hleft
      rw [step_register_of_ok hleft, step_register_of_ok hright, register_eq_ok hright]
      exact SameDeclarations.agrees ⟨rfl, rfl⟩ fun _ => rfl
    | error fault =>
      rw [hright] at hleft
      rw [step_register_of_error hleft, step_register_of_error hright]
      exact SameDeclarations.agrees ⟨rfl, rfl⟩ fun _ => rfl
  | importManifest input =>
    cases hparse : Metadata.parseManifest input with
    | ok declarations =>
      rw [step_importManifest_of_ok _ hparse, step_importManifest_of_ok _ hparse,
        registerAll_with]
      apply SameDeclarations.agrees
      · dsimp only
        rw [registerAll_registry]
        exact ⟨rfl, rfl⟩
      · intro _
        rfl
    | error fault =>
      rw [step_importManifest_of_error _ hparse, step_importManifest_of_error _ hparse]
      exact SameDeclarations.agrees ⟨rfl, rfl⟩ fun _ => rfl
  | compute => exact SameDeclarations.agrees ⟨rfl, rfl⟩ fun _ => rfl
  | build =>
    apply SameDeclarations.agrees
    · rw [step_build_registry, step_build_registry]
      exact ⟨rfl, rfl⟩
    · intro _
      rw [step_build_answer, step_build_answer]
      rfl
  | has identity => exact SameDeclarations.agrees ⟨rfl, rfl⟩ fun _ => rfl
  | get identity => exact SameDeclarations.agrees ⟨rfl, rfl⟩ fun hget => absurd rfl (hget identity)
  | list => exact SameDeclarations.agrees ⟨rfl, rfl⟩ fun _ => rfl

theorem SameDeclarations.step_left (h : SameDeclarations left right) {step : Step}
    (hstep : step.Observes) : SameDeclarations (left.step step).registry right := by
  cases hstep with
  | build =>
    rw [step_build_registry]
    exact ⟨h.failFast, h.declarations⟩
  | _ => exact ⟨h.failFast, h.declarations⟩

theorem SameDeclarations.history (h : SameDeclarations left right) (steps : List Step)
    (erased : Nat → Bool)
    (herased :
      ∀ position step, erased position = true → steps[position]? = some step → step.Observes) :
    List.Forall₂ Moment.Agrees
      (without erased (left.history steps)) (right.history (without erased steps)) := by
  induction steps generalizing left right erased with
  | nil => exact .nil
  | cons step steps ih =>
    have hrest :
        ∀ position later,
          erased (position + 1) = true → steps[position]? = some later → later.Observes := by
      intro position later hposition hlater
      exact herased (position + 1) later hposition hlater
    rw [history_cons]
    unfold without
    cases hfirst : erased 0 with
    | true =>
      have hobserves : step.Observes := herased 0 step hfirst rfl
      exact ih (h.step_left hobserves) _ hrest
    | false =>
      obtain ⟨hnext, hagrees⟩ := h.step step
      exact .cons hagrees (ih hnext _ hrest)

/--
The steps that a run has taken before its last pass.
-/
inductive LastPass : List Step → List Step → Prop where
  | intro {before since : List Step} {pass : Step} :
    pass.IsPass → (∀ step ∈ since, ¬step.IsPass) → LastPass (before ++ pass :: since) before

theorem LastPass.cons {steps before : List Step} (step : Step) (h : LastPass steps before) :
    LastPass (step :: steps) (step :: before) := by
  obtain ⟨hpass, hsince⟩ := h
  rw [← List.cons_append]
  exact .intro hpass hsince

theorem exists_lastPass_or_forall_not_isPass (steps : List Step) :
    (∃ before, LastPass steps before) ∨ ∀ step ∈ steps, ¬step.IsPass := by
  induction steps with
  | nil =>
    right
    intro step hmem
    cases hmem
  | cons step steps ih =>
    rcases ih with ⟨before, hlast⟩ | hnone
    · exact .inl ⟨step :: before, hlast.cons step⟩
    · by_cases hpass : step.IsPass
      · have hlast : LastPass ([] ++ step :: steps) [] := .intro hpass hnone
        exact .inl ⟨[], hlast⟩
      · right
        rw [List.forall_mem_cons]
        exact ⟨hpass, hnone⟩

theorem configurations_step_of_not_isPass (registry : Registry) {step : Step}
    (h : ¬step.IsPass) :
    (registry.step step).registry.configurations = registry.configurations := by
  cases step with
  | register declaration =>
    cases hregister : registry.register declaration with
    | ok next => rw [step_register_of_ok hregister, register_eq_ok hregister]
    | error fault => rw [step_register_of_error hregister]
  | importManifest input =>
    cases hparse : Metadata.parseManifest input with
    | ok declarations =>
      rw [step_importManifest_of_ok _ hparse]
      dsimp only
      rw [registerAll_registry]
    | error fault => rw [step_importManifest_of_error _ hparse]
  | compute => exact absurd .compute h
  | build => exact absurd .build h
  | has identity => rfl
  | get identity => rfl
  | list => rfl

theorem configurations_after_of_forall_not_isPass (registry : Registry) {steps : List Step}
    (h : ∀ step ∈ steps, ¬step.IsPass) :
    (registry.after steps).configurations = registry.configurations := by
  induction steps generalizing registry with
  | nil => rfl
  | cons step steps ih =>
    obtain ⟨hstep, hsteps⟩ := List.forall_mem_cons.mp h
    rw [after_cons, ih _ hsteps, configurations_step_of_not_isPass registry hstep]

theorem registry_step_of_isPass (registry : Registry) {step : Step} (h : step.IsPass) :
    (registry.step step).registry = registry.afterPass := by
  cases h with
  | compute => rfl
  | build => exact step_build_registry registry

theorem LastPass.configurations_after {steps before : List Step} (h : LastPass steps before)
    (registry : Registry) :
    (registry.after steps).configurations = (registry.after before).report.configurations := by
  obtain ⟨hpass, hsince⟩ := h
  rw [after_append, after_cons, configurations_after_of_forall_not_isPass _ hsince,
    registry_step_of_isPass _ hpass]
  rfl

def Finds (failFast : Bool) (declarations : List Declaration) (identity : String)
    (configuration : Configuration) : Prop :=
  ∃ earlier declaration later,
    declarations = earlier ++ declaration :: later ∧
      declaration.signature.identity = identity ∧
        declaration.classify = .ok configuration ∧
          (failFast = true →
            ∀ other ∈ earlier, ∃ otherConfiguration, other.classify = .ok otherConfiguration)

theorem find?_identity_eq_some_iff {configurations : List Configuration}
    (hnodup : (configurations.map (·.identity)).Nodup) {identity : String}
    {configuration : Configuration} :
    configurations.find? (·.identity == identity) = some configuration ↔
      configuration ∈ configurations ∧ configuration.identity = identity := by
  constructor
  · intro h
    exact ⟨List.mem_of_find?_eq_some h, by simpa using List.find?_some h⟩
  · rintro ⟨hmem, rfl⟩
    have hsome : (configurations.find? (·.identity == configuration.identity)).isSome := by
      rw [List.find?_isSome]
      exact ⟨configuration, hmem, by simp⟩
    obtain ⟨found, hfound⟩ := Option.isSome_iff_exists.mp hsome
    have hidentity : found.identity = configuration.identity := by
      simpa using List.find?_some hfound
    rw [hfound, List.inj_on_of_nodup_map hnodup (List.mem_of_find?_eq_some hfound) hmem hidentity]

theorem find?_ofDeclarations_iff {failFast : Bool} {declarations : List Declaration}
    (hnodup : (declarations.map (·.identity)).Nodup) {identity : String}
    {configuration : Configuration} :
    (Report.ofDeclarations failFast declarations).configurations.find? (·.identity == identity) =
        some configuration ↔
      Finds failFast declarations identity configuration := by
  rw [find?_identity_eq_some_iff (hnodup.sublist (Report.identities_sublist _ _)),
    Report.mem_configurations_ofDeclarations_iff]
  constructor
  · rintro ⟨⟨earlier, declaration, later, rfl, hbeyond, hclassify⟩, rfl⟩
    refine ⟨earlier, declaration, later, rfl, ?_, hclassify, hbeyond⟩
    exact (Declaration.identity_eq_of_classify hclassify).symm
  · rintro ⟨earlier, declaration, later, rfl, rfl, hclassify, hbeyond⟩
    refine ⟨⟨earlier, declaration, later, rfl, hbeyond, hclassify⟩, ?_⟩
    exact Declaration.identity_eq_of_classify hclassify

theorem LastPass.get?_after_iff {steps before : List Step} (h : LastPass steps before)
    {failFast : Bool} {identity : String} {configuration : Configuration} :
    ((empty failFast).after steps).get? identity = some configuration ↔
      Finds failFast ((empty failFast).after before).declarations identity configuration := by
  unfold get?
  rw [h.configurations_after, report_eq_ofDeclarations, failFast_after]
  apply find?_ofDeclarations_iff
  exact ((wellFormed_empty failFast).after before).nodup

theorem get?_after_iff {failFast : Bool} {steps : List Step} {identity : String}
    {configuration : Configuration} :
    ((empty failFast).after steps).get? identity = some configuration ↔
      ∃ before,
        LastPass steps before ∧
          Finds failFast ((empty failFast).after before).declarations identity configuration := by
  constructor
  · intro hget
    rcases exists_lastPass_or_forall_not_isPass steps with ⟨before, hlast⟩ | hnone
    · exact ⟨before, hlast, hlast.get?_after_iff.mp hget⟩
    -- Without a pass there is nothing to look up.
    · unfold get? at hget
      rw [configurations_after_of_forall_not_isPass _ hnone] at hget
      cases hget
  · rintro ⟨before, hlast, hfinds⟩
    exact hlast.get?_after_iff.mpr hfinds

theorem LastPass.get?_eq_none {steps before : List Step} (h : LastPass steps before)
    {failFast : Bool} {identity : String}
    (hnew : ((empty failFast).after before).has identity = false) :
    ((empty failFast).after steps).get? identity = none := by
  rw [Option.eq_none_iff_forall_ne_some]
  intro configuration hget
  obtain ⟨earlier, declaration, later, heq, hidentity, _⟩ := h.get?_after_iff.mp hget
  have hhas : ((empty failFast).after before).has identity = true := by
    rw [has_iff]
    refine ⟨declaration, ?_, hidentity⟩
    rw [heq]
    simp
  rw [hnew] at hhas
  cases hhas

/--
A run goes on the same if any of its passes and queries are erased, and what can be looked up after
it is exactly what the last pass has found, if there was one.
-/
theorem observing_is_pure_and_get?_is_last_pass (failFast : Bool) (steps : List Step) :
    (∀ erased : Nat → Bool,
      (∀ position step,
        erased position = true → steps[position]? = some step → step.Observes) →
          List.Forall₂ Moment.Agrees
            (without erased ((empty failFast).history steps))
            ((empty failFast).history (without erased steps))) ∧
    (∀ identity configuration,
      ((empty failFast).after steps).get? identity = some configuration ↔
        ∃ before,
          LastPass steps before ∧
            Finds failFast ((empty failFast).after before).declarations identity configuration) ∧
    (∀ before identity,
      LastPass steps before → ((empty failFast).after before).has identity = false →
        ((empty failFast).after steps).get? identity = none) := by
  refine ⟨?_, ?_, ?_⟩
  · intro erased herased
    exact SameDeclarations.history ⟨rfl, rfl⟩ steps erased herased
  · intro identity configuration
    exact get?_after_iff
  · intro before identity hlast hnew
    exact hlast.get?_eq_none hnew

end Registry

end Mediation

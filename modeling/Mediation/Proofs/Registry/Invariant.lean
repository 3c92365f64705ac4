import Mediation.Proofs.Classification.Decision
import Mediation.Proofs.Registry.Preservation
import Mediation.Proofs.Registry.Report
import Mediation.Proofs.Text.Trim

/-!
This module contains the invariant of registries: what any run on an empty registry keeps true of
its declarations and of the configurations that the last pass has left, and what a caller can tell
from that.
-/

namespace Mediation

namespace Declaration

/--
Whether a declaration is bound on a side to a channel of which the name is all blank.
-/
def IsBlankAt (declaration : Declaration) (side : Side) : Prop :=
  ∃ binding,
    declaration.binding? side = some binding ∧
      ∀ c ∈ binding.channel.toList, Text.isBlank c = true

variable {declaration : Declaration} {side : Side}

theorem mem_blankSides_iff : side ∈ declaration.blankSides ↔ declaration.IsBlankAt side := by
  have hmem : side ∈ Side.all := by cases side <;> decide
  unfold blankSides IsBlankAt
  rw [List.mem_filter, Option.any_eq_true]
  simp [hmem, Text.isBlankText_iff]

theorem blankSides_eq_nil_iff_forall_not_isBlankAt :
    declaration.blankSides = [] ↔ ∀ side, ¬declaration.IsBlankAt side := by
  rw [List.eq_nil_iff_forall_not_mem]
  exact forall_congr' fun side => not_congr mem_blankSides_iff

theorem blankSides_eq_nil_iff (declaration : Declaration) :
    declaration.blankSides = [] ↔
      ∀ side binding, declaration.binding? side = some binding →
        ∃ c ∈ binding.channel.toList, Text.isBlank c = false := by
  rw [blankSides_eq_nil_iff_forall_not_isBlankAt]
  simp [IsBlankAt]

end Declaration

namespace Registry

/--
What a run keeps true of a registry. The configurations that it holds are those of a pass over the
declarations that had been registered by then.
-/
structure WellFormed (registry : Registry) : Prop where
  nodup : registry.identities.Nodup
  bound : ∀ declaration ∈ registry.declarations, declaration.isBound
  audible : ∀ declaration ∈ registry.declarations, declaration.blankSides = []
  computed :
    ∃ visited,
      visited <+: registry.declarations ∧
        registry.configurations =
          (Report.ofDeclarations registry.failFast visited).configurations

theorem wellFormed_empty (failFast : Bool) : (empty failFast).WellFormed := by
  constructor
  · apply List.nodup_nil
  · intro declaration hmem
    cases hmem
  · intro declaration hmem
    cases hmem
  · exact ⟨[], List.prefix_rfl, rfl⟩

variable {registry : Registry}

theorem WellFormed.register {declaration : Declaration} {next : Registry}
    (hnext : registry.register declaration = .ok next) (h : registry.WellFormed) :
    next.WellFormed := by
  obtain ⟨hbound, hfresh, hsides, rfl⟩ := register_eq_ok_iff.mp hnext
  constructor
  · unfold identities at hfresh ⊢
    rw [List.map_append, List.map_singleton, List.nodup_append]
    refine ⟨h.nodup, List.pairwise_singleton _ _, ?_⟩
    intro taken htaken added hadded heq
    rw [List.mem_singleton.mp hadded] at heq
    subst heq
    exact hfresh htaken
  · intro other hmem
    rcases List.mem_append.mp hmem with hmem | hmem
    · exact h.bound other hmem
    · rw [List.mem_singleton.mp hmem]
      exact hbound
  · intro other hmem
    rcases List.mem_append.mp hmem with hmem | hmem
    · exact h.audible other hmem
    · rw [List.mem_singleton.mp hmem]
      exact hsides
  -- No pass has taken place, and what the last one has visited is still in front.
  · obtain ⟨visited, hprefix, hconfigurations⟩ := h.computed
    refine ⟨visited, ?_, hconfigurations⟩
    exact hprefix.trans (List.prefix_append _ _)

theorem WellFormed.afterPass (h : registry.WellFormed) : registry.afterPass.WellFormed := by
  constructor
  · exact h.nodup
  · exact h.bound
  · exact h.audible
  · exact ⟨registry.declarations, List.prefix_rfl, rfl⟩

theorem WellFormed.after (h : registry.WellFormed) (steps : List Step) :
    (registry.after steps).WellFormed := by
  apply after_preserves
  · intro registry declaration next hnext h
    exact h.register hnext
  · intro registry h
    exact h.afterPass
  · exact h

theorem isPrefix_declarations_step (registry : Registry) (step : Step) :
    registry.declarations <+: (registry.step step).registry.declarations := by
  apply step_preserves (motive := fun next => registry.declarations <+: next.declarations)
  · intro current declaration next hnext h
    obtain ⟨_, _, _, rfl⟩ := register_eq_ok_iff.mp hnext
    exact h.trans (List.prefix_append _ _)
  · intro current h
    exact h
  · apply List.prefix_rfl

theorem has_iff (registry : Registry) (identity : String) :
    registry.has identity ↔
      ∃ declaration ∈ registry.declarations, declaration.identity = identity := by
  unfold has identities
  rw [List.contains_iff_mem, List.mem_map]

theorem WellFormed.exists_of_get? (h : registry.WellFormed) {identity : String}
    {configuration : Configuration} (hget : registry.get? identity = some configuration) :
    ∃ declaration ∈ registry.declarations,
      declaration.identity = identity ∧ declaration.classify = .ok configuration := by
  unfold get? at hget
  have hidentity : configuration.identity = identity := by simpa using List.find?_some hget
  have hmem := List.mem_of_find?_eq_some hget
  obtain ⟨visited, hprefix, hconfigurations⟩ := h.computed
  rw [hconfigurations] at hmem
  obtain ⟨declaration, hvisited, hclassify⟩ := Report.exists_classify_of_mem hmem
  refine ⟨declaration, hprefix.mem hvisited, ?_, hclassify⟩
  rw [← hidentity, Declaration.identity_eq_of_classify hclassify]

/--
What a caller can rely on who looks into a registry.
-/
structure Consistent (registry : Registry) : Prop where
  nodup : (registry.declarations.map (·.signature.identity)).Nodup
  bound :
    ∀ declaration ∈ registry.declarations,
      declaration.incoming.isSome ∨ declaration.outgoing.isSome
  audible :
    ∀ declaration ∈ registry.declarations, ∀ side binding,
      declaration.binding? side = some binding →
        ∃ c ∈ binding.channel.toList, Text.isBlank c = false
  has_iff :
    ∀ identity,
      registry.has identity ↔
        ∃ declaration ∈ registry.declarations, declaration.signature.identity = identity
  classified_of_get? :
    ∀ identity configuration,
      registry.get? identity = some configuration →
        ∃ declaration ∈ registry.declarations,
          declaration.signature.identity = identity ∧ declaration.classify = .ok configuration

theorem WellFormed.consistent (h : registry.WellFormed) : registry.Consistent := by
  constructor
  · exact h.nodup
  · intro declaration hmem
    have hbound := h.bound declaration hmem
    unfold Declaration.isBound at hbound
    rwa [Bool.or_eq_true] at hbound
  · intro declaration hmem
    rw [← Declaration.blankSides_eq_nil_iff]
    exact h.audible declaration hmem
  · exact registry.has_iff
  · intro identity configuration hget
    exact h.exists_of_get? hget

/--
A run on an empty registry only ever reaches consistent registries, and none of its steps removes,
reorders or rewrites a declaration.
-/
theorem consistent_after_and_declarations_grow (failFast : Bool) (steps : List Step) :
    ((empty failFast).after steps).Consistent ∧
      ∀ step,
        ((empty failFast).after steps).declarations <+:
          (((empty failFast).after steps).step step).registry.declarations := by
  constructor
  · exact ((wellFormed_empty failFast).after steps).consistent
  · intro step
    apply isPrefix_declarations_step

end Registry

end Mediation

import Mediation.Proofs.Registry.Invariant

/-!
This module contains the registration of declarations one after the other: what it takes that none
of them is refused, and what they leave behind then.
-/

namespace Mediation.Registry

/--
Nothing keeps declarations from being registered one after the other: their identities are neither
taken nor the same, and each of them is bound, to no channel with a blank name.
-/
structure Admits (registry : Registry) (declarations : List Declaration) : Prop where
  nodup : (declarations.map (·.identity)).Nodup
  free : ∀ declaration ∈ declarations, declaration.identity ∉ registry.identities
  bound : ∀ declaration ∈ declarations, declaration.isBound
  audible : ∀ declaration ∈ declarations, declaration.blankSides = []

variable {registry : Registry} {declaration : Declaration} {declarations : List Declaration}

theorem admits_nil (registry : Registry) : registry.Admits [] := by
  constructor
  · apply List.nodup_nil
  all_goals apply List.forall_mem_nil

theorem admits_cons_iff :
    registry.Admits (declaration :: declarations) ↔
      ∃ next, registry.register declaration = .ok next ∧ next.Admits declarations := by
  constructor
  · intro h
    obtain ⟨hfresh, hnodup⟩ := List.nodup_cons.mp h.nodup
    obtain ⟨hfree, hfrees⟩ := List.forall_mem_cons.mp h.free
    obtain ⟨hbound, hbounds⟩ := List.forall_mem_cons.mp h.bound
    obtain ⟨hsides, haudible⟩ := List.forall_mem_cons.mp h.audible
    have hnext := register_eq_ok_iff.mpr ⟨hbound, hfree, hsides, rfl⟩
    refine ⟨_, hnext, hnodup, ?_, hbounds, haudible⟩
    intro other hmem htaken
    rw [identities_of_register hnext, List.mem_append, List.mem_singleton] at htaken
    rcases htaken with htaken | heq
    · exact hfrees other hmem htaken
    · exact hfresh (List.mem_map.mpr ⟨other, hmem, heq⟩)
  · rintro ⟨next, hnext, h⟩
    obtain ⟨hbound, hfree, hsides, _⟩ := register_eq_ok_iff.mp hnext
    have hfrees :
        ∀ other ∈ declarations,
          other.identity ∉ registry.identities ∧ other.identity ≠ declaration.identity := by
      intro other hmem
      have := h.free other hmem
      rw [identities_of_register hnext] at this
      simpa using this
    constructor
    · rw [List.map_cons, List.nodup_cons, List.mem_map]
      refine ⟨?_, h.nodup⟩
      rintro ⟨other, hmem, heq⟩
      exact (hfrees other hmem).2 heq
    · rw [List.forall_mem_cons]
      refine ⟨hfree, ?_⟩
      intro other hmem
      exact (hfrees other hmem).1
    · exact List.forall_mem_cons.mpr ⟨hbound, h.bound⟩
    · exact List.forall_mem_cons.mpr ⟨hsides, h.audible⟩

theorem Admits.registerAll_eq (h : registry.Admits declarations) :
    registry.registerAll declarations =
      {
        registry := { registry with declarations := registry.declarations ++ declarations }
        accepted := declarations
        fault? := none
      } := by
  induction declarations generalizing registry with
  | nil => simp [registerAll]
  | cons declaration declarations ih =>
    obtain ⟨next, hnext, hrest⟩ := admits_cons_iff.mp h
    rw [registerAll, hnext]
    dsimp only
    rw [ih hrest, register_eq_ok hnext]
    simp

theorem Admits.after_eq (h : registry.Admits declarations) :
    registry.after (declarations.map .register) =
      { registry with declarations := registry.declarations ++ declarations } := by
  induction declarations generalizing registry with
  | nil => simp
  | cons declaration declarations ih =>
    obtain ⟨next, hnext, hrest⟩ := admits_cons_iff.mp h
    rw [List.map_cons, after_cons, step_register_of_ok hnext]
    dsimp only
    rw [ih hrest, register_eq_ok hnext]
    simp

/--
Registering declarations one after the other succeeds at every step exactly if nothing keeps them
from being registered.
-/
theorem forall_run_register_done_iff :
    (∀ turn ∈ registry.run (declarations.map .register), turn.answer = .ok .done) ↔
      registry.Admits declarations := by
  induction declarations generalizing registry with
  | nil =>
    constructor
    · intro _
      apply admits_nil
    · intro _
      apply List.forall_mem_nil
  | cons declaration declarations ih =>
    rw [admits_cons_iff, List.map_cons, run, List.forall_mem_cons]
    cases hregister : registry.register declaration with
    | ok next =>
      rw [step_register_of_ok hregister]
      simp [ih]
    | error fault =>
      rw [step_register_of_error hregister]
      simp

theorem WellFormed.admits_declarations (h : registry.WellFormed) (failFast : Bool) :
    (empty failFast).Admits registry.declarations := by
  constructor
  · exact h.nodup
  · intro declaration _
    apply List.not_mem_nil
  · exact h.bound
  · exact h.audible

end Mediation.Registry

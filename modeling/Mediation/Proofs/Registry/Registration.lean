import Mediation.Proofs.Registry.Invariant

/-!
This module contains the registration of one declaration: which fault it is refused for, that a
refusal leaves no trace, and that a declaration that is accepted is all that is added.
-/

namespace Mediation

theorem Declaration.blankSides_sublist (declaration : Declaration) :
    declaration.blankSides.Sublist [.incoming, .outgoing] := by
  apply List.filter_sublist

theorem Side.blankIssue_injective : Function.Injective Side.blankIssue := by
  intro left right h
  cases left <;> cases right <;> simp_all [blankIssue, name]

theorem Declaration.mem_map_blankIssue_iff (declaration : Declaration) (side : Side) :
    side.blankIssue ∈ declaration.blankSides.map Side.blankIssue ↔ declaration.IsBlankAt side := by
  rw [List.mem_map_of_injective Side.blankIssue_injective, mem_blankSides_iff]

namespace Registry

/--
The fault that a registry refuses a declaration for.
-/
inductive Refuses (registry : Registry) (declaration : Declaration) : Fault → Prop where
  | unbound :
    declaration.incoming = none → declaration.outgoing = none →
      Refuses registry declaration (.notAMediator declaration.identity)
  | taken :
    declaration.incoming.isSome ∨ declaration.outgoing.isSome →
    declaration.identity ∈ registry.identities →
      Refuses registry declaration (.alreadyRegistered declaration.identity)
  | blank {side : Side} :
    declaration.incoming.isSome ∨ declaration.outgoing.isSome →
    declaration.identity ∉ registry.identities → declaration.IsBlankAt side →
      Refuses registry declaration (.blankChannels declaration.identity declaration.blankSides)

variable {registry next : Registry} {declaration : Declaration} {fault : Fault}

theorem register_eq_error_iff_refuses :
    registry.register declaration = .error fault ↔ registry.Refuses declaration fault := by
  unfold register has
  constructor
  · intro h
    split at h
    next hbound =>
      cases h
      rw [Bool.not_eq_true', Declaration.isBound_eq_false_iff] at hbound
      exact .unbound hbound.1 hbound.2
    next hbound =>
      rw [Bool.not_eq_true, Bool.not_eq_false', Declaration.isBound_iff] at hbound
      split at h
      next htaken =>
        cases h
        exact .taken hbound (List.contains_iff_mem.mp htaken)
      next htaken =>
        split at h
        next => cases h
        next sides hsides =>
          cases h
          obtain ⟨side, hmem⟩ := List.exists_mem_of_ne_nil _ hsides
          have hblank := Declaration.mem_blankSides_iff.mp hmem
          exact .blank hbound (mt List.contains_iff_mem.mpr htaken) hblank
  · intro h
    cases h with
    | unbound hincoming houtgoing => simp [Declaration.isBound, hincoming, houtgoing]
    | taken hbound htaken =>
      rw [← Declaration.isBound_iff] at hbound
      simp [hbound, htaken]
    | blank hbound hfree hblank =>
      rw [← Declaration.isBound_iff] at hbound
      have hsides := List.ne_nil_of_mem (Declaration.mem_blankSides_iff.mpr hblank)
      simp [hbound, hfree]

def Turn.code? (turn : Turn) : Option String :=
  match turn.answer with
  | .ok _ => none
  | .error fault => some fault.code

/--
What a caller can tell of a turn that was refused: nothing, now or later.
-/
structure Turn.LeavesNoTrace (registry : Registry) (turn : Turn) : Prop where
  declarations_eq : turn.registry.declarations = registry.declarations
  has_eq : ∀ identity, turn.registry.has identity = registry.has identity
  get?_eq : ∀ identity, turn.registry.get? identity = registry.get? identity
  events_eq : turn.events = []
  run_eq : ∀ steps, turn.registry.run steps = registry.run steps
  /-- What could be registered before, under whatever identity, still can. -/
  register_done :
    ∀ declaration : Declaration,
      declaration.incoming.isSome ∨ declaration.outgoing.isSome →
        declaration.identity ∉ registry.identities → (∀ side, ¬declaration.IsBlankAt side) →
          (turn.registry.step (.register declaration)).answer = .ok .done

/--
What a caller can tell of a turn that has registered a declaration.
-/
structure Turn.Enters (registry : Registry) (declaration : Declaration) (turn : Turn) : Prop where
  declarations_eq : turn.registry.declarations = registry.declarations ++ [declaration]
  has_iff :
    ∀ identity,
      turn.registry.has identity ↔ registry.has identity ∨ identity = declaration.identity
  has_eq_false : registry.has declaration.identity = false
  get?_eq : ∀ identity, turn.registry.get? identity = registry.get? identity
  get?_eq_none : turn.registry.get? declaration.identity = none
  events_eq : turn.events = [.registered declaration]

/--
What the registration of a declaration leads to.
-/
structure Registers (registry : Registry) (declaration : Declaration) (turn : Turn) : Prop where
  notAMediator_iff :
    turn.code? = some "NOT_A_MEDIATOR" ↔ declaration.incoming = none ∧ declaration.outgoing = none
  alreadyRegistered_iff :
    turn.code? = some "ALREADY_REGISTERED" ↔
      (declaration.incoming.isSome ∨ declaration.outgoing.isSome) ∧
        declaration.identity ∈ registry.identities
  invalidDescriptor_iff :
    turn.code? = some "INVALID_DESCRIPTOR" ↔
      (declaration.incoming.isSome ∨ declaration.outgoing.isSome) ∧
        declaration.identity ∉ registry.identities ∧ ∃ side, declaration.IsBlankAt side
  done_iff :
    turn.answer = .ok .done ↔
      (declaration.incoming.isSome ∨ declaration.outgoing.isSome) ∧
        declaration.identity ∉ registry.identities ∧ ∀ side, ¬declaration.IsBlankAt side
  issues :
    turn.code? = some "INVALID_DESCRIPTOR" →
      ∃ issues,
        turn.answer = .error (.invalid ("bindings of " ++ declaration.identity) issues) ∧
          let incoming : Issue := ⟨"incoming.channel", "channel name must not be empty"⟩
          let outgoing : Issue := ⟨"outgoing.channel", "channel name must not be empty"⟩
          issues.Sublist [incoming, outgoing] ∧
            (incoming ∈ issues ↔ declaration.IsBlankAt .incoming) ∧
              (outgoing ∈ issues ↔ declaration.IsBlankAt .outgoing)
  refused : ∀ fault, turn.answer = .error fault → turn.LeavesNoTrace registry
  entered : turn.answer = .ok .done → turn.Enters registry declaration

theorem exists_register_iff :
    (∃ next, registry.register declaration = .ok next) ↔
      (declaration.incoming.isSome ∨ declaration.outgoing.isSome) ∧
        declaration.identity ∉ registry.identities ∧ ∀ side, ¬declaration.IsBlankAt side := by
  rw [← Declaration.isBound_iff, ← Declaration.blankSides_eq_nil_iff_forall_not_isBlankAt]
  constructor
  · rintro ⟨next, h⟩
    obtain ⟨hbound, hfree, hsides, _⟩ := register_eq_ok_iff.mp h
    exact ⟨hbound, hfree, hsides⟩
  · rintro ⟨hbound, hfree, hsides⟩
    exact ⟨_, register_eq_ok_iff.mpr ⟨hbound, hfree, hsides, rfl⟩⟩

theorem code?_step_register_eq_some_iff {code : String} :
    (registry.step (.register declaration)).code? = some code ↔
      ∃ fault, registry.Refuses declaration fault ∧ fault.code = code := by
  simp only [← register_eq_error_iff_refuses]
  cases h : registry.register declaration with
  | ok next =>
    rw [step_register_of_ok h]
    simp [Turn.code?]
  | error fault =>
    rw [step_register_of_error h]
    simp [Turn.code?]

theorem step_register_answer_eq_error_iff :
    (registry.step (.register declaration)).answer = .error fault ↔
      registry.Refuses declaration fault := by
  rw [← register_eq_error_iff_refuses]
  cases h : registry.register declaration with
  | ok next =>
    rw [step_register_of_ok h]
    simp
  | error fault =>
    rw [step_register_of_error h]
    simp

theorem step_register_answer_eq_done_iff :
    (registry.step (.register declaration)).answer = .ok .done ↔
      (declaration.incoming.isSome ∨ declaration.outgoing.isSome) ∧
        declaration.identity ∉ registry.identities ∧ ∀ side, ¬declaration.IsBlankAt side := by
  rw [← exists_register_iff]
  cases h : registry.register declaration with
  | ok next =>
    rw [step_register_of_ok h]
    simp
  | error fault =>
    rw [step_register_of_error h]
    simp

theorem leavesNoTrace (registry : Registry) (fault : Fault) :
    Turn.LeavesNoTrace registry { registry, answer := .error fault, events := [] } := by
  constructor
  · rfl
  · exact fun _ => rfl
  · exact fun _ => rfl
  · rfl
  · exact fun _ => rfl
  · intro declaration hbound hfree haudible
    exact step_register_answer_eq_done_iff.mpr ⟨hbound, hfree, haudible⟩

theorem WellFormed.enters_of_register (h : registry.WellFormed)
    (hnext : registry.register declaration = .ok next) :
    Turn.Enters registry declaration
      { registry := next, answer := .ok .done, events := [.registered declaration] } := by
  have hidentities := identities_of_register hnext
  obtain ⟨_, hfree, _, rfl⟩ := register_eq_ok_iff.mp hnext
  constructor
  · rfl
  · intro identity
    unfold has
    rw [hidentities]
    simp
  · unfold has
    simpa using hfree
  · intro identity
    rfl
  -- Whatever has a configuration was registered before, and this identity was not.
  · rw [Option.eq_none_iff_forall_ne_some]
    intro configuration hget
    obtain ⟨other, hmem, heq, _⟩ := h.exists_of_get? hget
    exact hfree (List.mem_map.mpr ⟨other, hmem, heq⟩)
  · rfl

theorem WellFormed.registers (h : registry.WellFormed) (declaration : Declaration) :
    registry.Registers declaration (registry.step (.register declaration)) := by
  constructor
  · rw [code?_step_register_eq_some_iff]
    constructor
    · rintro ⟨fault, hrefuses, hcode⟩
      cases hrefuses with
      | unbound hincoming houtgoing => exact ⟨hincoming, houtgoing⟩
      | taken _ _ => simp [Fault.code, Fault.Code.name] at hcode
      | blank _ _ _ => simp [Fault.blankChannels, Fault.code, Fault.Code.name] at hcode
    · rintro ⟨hincoming, houtgoing⟩
      exact ⟨_, .unbound hincoming houtgoing, rfl⟩
  · rw [code?_step_register_eq_some_iff]
    constructor
    · rintro ⟨fault, hrefuses, hcode⟩
      cases hrefuses with
      | unbound _ _ => simp [Fault.code, Fault.Code.name] at hcode
      | taken hbound htaken => exact ⟨hbound, htaken⟩
      | blank _ _ _ => simp [Fault.blankChannels, Fault.code, Fault.Code.name] at hcode
    · rintro ⟨hbound, htaken⟩
      exact ⟨_, .taken hbound htaken, rfl⟩
  · rw [code?_step_register_eq_some_iff]
    constructor
    · rintro ⟨fault, hrefuses, hcode⟩
      cases hrefuses with
      | unbound _ _ => simp [Fault.code, Fault.Code.name] at hcode
      | taken _ _ => simp [Fault.code, Fault.Code.name] at hcode
      | blank hbound hfree hblank => exact ⟨hbound, hfree, _, hblank⟩
    · rintro ⟨hbound, hfree, side, hblank⟩
      exact ⟨_, .blank hbound hfree hblank, rfl⟩
  · exact step_register_answer_eq_done_iff
  · rw [code?_step_register_eq_some_iff]
    rintro ⟨fault, hrefuses, hcode⟩
    cases hrefuses with
    | unbound _ _ => simp [Fault.code, Fault.Code.name] at hcode
    | taken _ _ => simp [Fault.code, Fault.Code.name] at hcode
    | blank hbound hfree hblank =>
      have hanswer := step_register_answer_eq_error_iff.mpr (.blank hbound hfree hblank)
      refine ⟨_, hanswer, declaration.blankSides_sublist.map Side.blankIssue, ?_, ?_⟩
      · exact declaration.mem_map_blankIssue_iff .incoming
      · exact declaration.mem_map_blankIssue_iff .outgoing
  · intro fault hanswer
    rw [step_register_answer_eq_error_iff, ← register_eq_error_iff_refuses] at hanswer
    rw [step_register_of_error hanswer]
    apply leavesNoTrace
  · intro hanswer
    obtain ⟨next, hnext⟩ := exists_register_iff.mpr (step_register_answer_eq_done_iff.mp hanswer)
    rw [step_register_of_ok hnext]
    exact h.enters_of_register hnext

/--
To register a declaration either adds it and nothing else, or leaves everything as it is. Of several
faults the missing binding comes before the taken identity, and that before blank channels.
-/
theorem registration_is_all_or_nothing (failFast : Bool) (steps : List Step)
    (declaration : Declaration) :
    ((empty failFast).after steps).Registers declaration
      (((empty failFast).after steps).step (.register declaration)) :=
  ((wellFormed_empty failFast).after steps).registers declaration

end Registry

end Mediation

import Mathlib.Data.List.Perm.Basic
import Mediation.Proofs.Registry.Admission
import Mediation.Proofs.Registry.Observation

/-!
This module contains what becomes of a registry if the same declarations are registered in another
order: as many of them are admitted, the same is found for each of them, and only the order in which
it is reported changes.
-/

namespace Mediation

namespace Declaration

def configuration? (declaration : Declaration) : Option Configuration :=
  match declaration.classify with
  | .ok configuration => some configuration
  | .error _ => none

def rejection? (declaration : Declaration) : Option Rejection :=
  match declaration.classify with
  | .ok _ => none
  | .error rejection => some rejection

theorem identity_eq_of_classify_error {declaration : Declaration} {rejection : Rejection}
    (h : declaration.classify = .error rejection) :
    rejection.identity = declaration.identity := by
  obtain ⟨mismatch, _, rfl⟩ := classify_eq_error_iff.mp h
  rfl

end Declaration

namespace Report

variable {declarations permuted : List Declaration}

theorem ofDeclarations_false_eq (declarations : List Declaration) :
    ofDeclarations false declarations =
      {
        configurations := declarations.filterMap Declaration.configuration?
        rejections := declarations.filterMap Declaration.rejection?
      } := by
  induction declarations with
  | nil => rfl
  | cons declaration declarations ih =>
    cases h : declaration.classify with
    | ok configuration =>
      rw [ofDeclarations_cons_of_ok h, ih]
      simp [Declaration.configuration?, Declaration.rejection?, h]
    | error rejection =>
      rw [ofDeclarations_false_cons_of_error h, ih]
      simp [Declaration.configuration?, Declaration.rejection?, h]

theorem configurations_perm (h : declarations.Perm permuted) :
    (ofDeclarations false declarations).configurations.Perm
      (ofDeclarations false permuted).configurations := by
  rw [ofDeclarations_false_eq, ofDeclarations_false_eq]
  exact h.filterMap _

theorem rejections_perm (h : declarations.Perm permuted) :
    (ofDeclarations false declarations).rejections.Perm
      (ofDeclarations false permuted).rejections := by
  rw [ofDeclarations_false_eq, ofDeclarations_false_eq]
  exact h.filterMap _

/--
A report gives the outcome of every declaration once, what it configures and what it rejects in the
order of the declarations.
-/
structure Covers (report : Report) (declarations : List Declaration) : Prop where
  configurations :
    (report.configurations.map Except.ok).Sublist (declarations.map Declaration.classify)
  rejections :
    (report.rejections.map Except.error).Sublist (declarations.map Declaration.classify)
  outcomes :
    (report.configurations.map Except.ok ++ report.rejections.map Except.error).Perm
      (declarations.map Declaration.classify)
  identities :
    (report.configurations.map (·.identity) ++ report.rejections.map (·.identity)).Perm
      (declarations.map (·.identity))

theorem covers_ofDeclarations (declarations : List Declaration) :
    (ofDeclarations false declarations).Covers declarations := by
  induction declarations with
  | nil => constructor <;> simp
  | cons declaration declarations ih =>
    cases h : declaration.classify with
    | ok configuration =>
      rw [ofDeclarations_cons_of_ok h]
      constructor
      · simpa [h] using ih.configurations
      · simpa [h] using ih.rejections.cons _
      · simpa [h] using ih.outcomes
      · simpa [Declaration.identity_eq_of_classify h] using ih.identities
    | error rejection =>
      rw [ofDeclarations_false_cons_of_error h]
      constructor
      · simpa [h] using ih.configurations.cons _
      · simpa [h] using ih.rejections
      -- The rejection comes behind all configurations, wherever its declaration stands.
      · simpa [h] using List.perm_middle.trans (ih.outcomes.cons _)
      · simpa [Declaration.identity_eq_of_classify_error h] using
          List.perm_middle.trans (ih.identities.cons _)

theorem rejections_eq_nil_iff {failFast : Bool} :
    (ofDeclarations failFast declarations).rejections = [] ↔
      ∀ declaration ∈ declarations, ∃ configuration, declaration.classify = .ok configuration := by
  induction declarations with
  | nil => simp
  | cons declaration declarations ih =>
    rw [List.forall_mem_cons]
    cases h : declaration.classify with
    | ok configuration =>
      rw [ofDeclarations_cons_of_ok h]
      simp [ih]
    | error rejection =>
      cases failFast with
      | false =>
        rw [ofDeclarations_false_cons_of_error h]
        simp
      | true =>
        rw [ofDeclarations_true_cons_of_error h]
        simp

end Report

namespace Registry

def RegistersAll (failFast : Bool) (declarations : List Declaration) : Prop :=
  ∀ turn ∈ (empty failFast).run (declarations.map .register), turn.answer = .ok .done

def filledWith (failFast : Bool) (declarations : List Declaration) : Registry :=
  (empty failFast).after (declarations.map .register)

/--
What declarations take to be registered one after the other, whatever their order.
-/
structure Registrable (declarations : List Declaration) : Prop where
  nodup : (declarations.map (·.signature.identity)).Nodup
  bound :
    ∀ declaration ∈ declarations, declaration.incoming.isSome ∨ declaration.outgoing.isSome
  audible :
    ∀ declaration ∈ declarations, ∀ side binding,
      declaration.binding? side = some binding → Text.trim binding.channel ≠ ""

variable {declarations permuted : List Declaration} {failFast : Bool}

theorem registrable_iff_admits (failFast : Bool) :
    Registrable declarations ↔ (empty failFast).Admits declarations := by
  have haudible (declaration : Declaration) :
      declaration.blankSides = [] ↔
        ∀ side binding, declaration.binding? side = some binding →
          Text.trim binding.channel ≠ "" := by
    rw [Declaration.blankSides_eq_nil_iff]
    simp only [← Text.isBlankText_eq_false_iff, Text.isBlankText, beq_eq_false_iff_ne]
  constructor
  · intro h
    constructor
    · exact h.nodup
    · intro declaration _
      apply List.not_mem_nil
    · intro declaration hmem
      exact Declaration.isBound_iff.mpr (h.bound declaration hmem)
    · intro declaration hmem
      exact (haudible declaration).mpr (h.audible declaration hmem)
  · intro h
    constructor
    · exact h.nodup
    · intro declaration hmem
      exact Declaration.isBound_iff.mp (h.bound declaration hmem)
    · intro declaration hmem
      exact (haudible declaration).mp (h.audible declaration hmem)

theorem registersAll_iff : RegistersAll failFast declarations ↔ Registrable declarations := by
  rw [registrable_iff_admits failFast, ← forall_run_register_done_iff]
  rfl

theorem Registrable.perm (h : Registrable declarations) (hperm : declarations.Perm permuted) :
    Registrable permuted := by
  constructor
  · exact (hperm.map _).nodup h.nodup
  · intro declaration hmem
    exact h.bound declaration (hperm.mem_iff.mpr hmem)
  · intro declaration hmem
    exact h.audible declaration (hperm.mem_iff.mpr hmem)

theorem Registrable.filledWith_eq (h : Registrable declarations) (failFast : Bool) :
    filledWith failFast declarations = { failFast, declarations, configurations := [] } := by
  unfold filledWith
  rw [((registrable_iff_admits failFast).mp h).after_eq]
  rfl

/--
Two registries that hold the same declarations and the same configurations, but for their order.
-/
structure Permutes (left right : Registry) : Prop where
  failFast_left : left.failFast = false
  failFast_right : right.failFast = false
  declarations : left.declarations.Perm right.declarations
  configurations : left.configurations.Perm right.configurations

variable {left right : Registry}

theorem Permutes.afterPass (h : left.Permutes right) :
    left.afterPass.Permutes right.afterPass := by
  constructor
  · exact h.failFast_left
  · exact h.failFast_right
  · exact h.declarations
  · change left.report.configurations.Perm right.report.configurations
    rw [report_eq_ofDeclarations, report_eq_ofDeclarations, h.failFast_left, h.failFast_right]
    exact Report.configurations_perm h.declarations

theorem Permutes.step (h : left.Permutes right) {step : Step} (hstep : step.Observes) :
    (left.step step).registry.Permutes (right.step step).registry := by
  cases hstep with
  | compute => exact h.afterPass
  | build =>
    rw [step_build_registry, step_build_registry]
    exact h.afterPass
  | has identity => exact h
  | get identity => exact h
  | list => exact h

theorem Permutes.after (h : left.Permutes right) {steps : List Step}
    (hsteps : ∀ step ∈ steps, step.Observes) : (left.after steps).Permutes (right.after steps) := by
  induction steps generalizing left right with
  | nil => exact h
  | cons step steps ih =>
    obtain ⟨hstep, hrest⟩ := List.forall_mem_cons.mp hsteps
    rw [after_cons, after_cons]
    exact ih (h.step hstep) hrest

theorem WellFormed.nodup_configurations {registry : Registry} (h : registry.WellFormed) :
    (registry.configurations.map (·.identity)).Nodup := by
  obtain ⟨visited, hfront, hconfigurations⟩ := h.computed
  have hvisited : (visited.map (·.identity)).Nodup :=
    h.nodup.sublist (hfront.sublist.map _)
  rw [hconfigurations]
  exact hvisited.sublist (Report.identities_sublist _ _)

theorem Permutes.get?_eq (h : left.Permutes right) (hleft : left.WellFormed)
    (hright : right.WellFormed) (identity : String) :
    left.get? identity = right.get? identity := by
  apply Option.ext
  intro configuration
  unfold get?
  rw [find?_identity_eq_some_iff hleft.nodup_configurations,
    find?_identity_eq_some_iff hright.nodup_configurations, h.configurations.mem_iff]

theorem exists_step_build_answer_iff {registry : Registry} :
    (∃ configurations, (registry.step .build).answer = .ok (.configurations configurations)) ↔
      ∀ declaration ∈ registry.declarations,
        ∃ configuration, declaration.classify = .ok configuration := by
  rw [← Report.rejections_eq_nil_iff, ← report_eq_ofDeclarations]
  simp [step_build_answer_eq_ok_iff]

/--
What a caller sees of two registries on which the same declarations are registered in two orders.
-/
structure Reorders (declarations permuted : List Declaration) : Prop where
  compute :
    ∃ report other,
      ((filledWith false declarations).step .compute).answer = .ok (.report report) ∧
        ((filledWith false permuted).step .compute).answer = .ok (.report other) ∧
          report.configurations.Perm other.configurations ∧
            report.rejections.Perm other.rejections ∧
              report.Covers declarations ∧ other.Covers permuted
  get? :
    ∀ steps, (∀ step ∈ steps, step.Observes) → ∀ identity,
      ((filledWith false declarations).after steps).get? identity =
        ((filledWith false permuted).after steps).get? identity
  build :
    ∀ failFast,
      (∃ configurations,
        ((filledWith failFast declarations).step .build).answer =
          .ok (.configurations configurations)) ↔
      ∃ configurations,
        ((filledWith failFast permuted).step .build).answer = .ok (.configurations configurations)

theorem Registrable.reorders (h : Registrable declarations) (hperm : declarations.Perm permuted) :
    Reorders declarations permuted := by
  have hpermuted := h.perm hperm
  have hpermutes : (filledWith false declarations).Permutes (filledWith false permuted) := by
    rw [h.filledWith_eq, hpermuted.filledWith_eq]
    exact ⟨rfl, rfl, hperm, .nil⟩
  constructor
  · refine ⟨.ofDeclarations false declarations, .ofDeclarations false permuted, ?_, ?_, ?_⟩
    · rw [h.filledWith_eq]
      rfl
    · rw [hpermuted.filledWith_eq]
      rfl
    · exact ⟨Report.configurations_perm hperm, Report.rejections_perm hperm,
        Report.covers_ofDeclarations declarations, Report.covers_ofDeclarations permuted⟩
  · intro steps hsteps identity
    apply (hpermutes.after hsteps).get?_eq
    · exact ((wellFormed_empty false).after _).after steps
    · exact ((wellFormed_empty false).after _).after steps
  · intro failFast
    rw [h.filledWith_eq, hpermuted.filledWith_eq, exists_step_build_answer_iff,
      exists_step_build_answer_iff]
    simp only [hperm.mem_iff]

/--
The order of registration decides on nothing but the order of the answers. Whether declarations can
be registered depends on them alone, and once they are, the same is found for each of them.
-/
theorem registration_order_is_immaterial {declarations permuted : List Declaration}
    (hperm : declarations.Perm permuted) :
    (∀ failFast,
      (RegistersAll failFast declarations ↔ RegistersAll failFast permuted) ∧
        (RegistersAll failFast declarations ↔ Registrable declarations)) ∧
    ((∃ failFast, RegistersAll failFast declarations) → Reorders declarations permuted) := by
  constructor
  · intro failFast
    rw [registersAll_iff, registersAll_iff]
    constructor
    · constructor
      · intro h
        exact h.perm hperm
      · intro h
        exact h.perm hperm.symm
    · rfl
  · rintro ⟨failFast, h⟩
    rw [registersAll_iff] at h
    exact h.reorders hperm

theorem registration_order_is_immaterial_swap :
    let accepted : Declaration :=
      {
        signature := { identity := "Prices#quote", returns := .payload "Quote", parameters := [] }
        incoming := none
        outgoing := some { channel := "quotes", provider := some "" }
      }
    let rejected : Declaration :=
      {
        signature := { identity := "Prices#drop", returns := .void, parameters := [] }
        incoming := none
        outgoing := some { channel := " drops ", provider := none }
      }
    [accepted, rejected].Perm [rejected, accepted] ∧
      RegistersAll true [accepted, rejected] ∧ RegistersAll true [rejected, accepted] ∧
        Reorders [accepted, rejected] [rejected, accepted] := by
  intro accepted rejected
  have hperm : [accepted, rejected].Perm [rejected, accepted] := .swap _ _ _
  have hregisters : RegistersAll true [accepted, rejected] := by
    intro turn hmem
    rcases List.mem_pair.mp hmem with rfl | rfl
    · rfl
    · rfl
  obtain ⟨hsame, hreorders⟩ := registration_order_is_immaterial hperm
  exact ⟨hperm, hregisters, (hsame true).1.mp hregisters, hreorders ⟨true, hregisters⟩⟩

end Registry

end Mediation

import Mediation.Proofs.Registry.Reordering
import Mediation.Proofs.Text.Cut

/-!
This module contains what a build reports when it fails: the rejection of every declaration that
cannot be classified, in the order of registration, and a message from which the rejections can be
told.
-/

namespace Mediation

theorem Mismatch.notMem_reason (mismatch : Mismatch) :
    '\n' ∉ mismatch.reason.toList ∧ ':' ∉ mismatch.reason.toList := by
  constructor
  · cases mismatch <;> exact Text.notMem_of_eq_ofList rfl (by decide)
  · cases mismatch <;> exact Text.notMem_of_eq_ofList rfl (by decide)

namespace Rejection

/--
Rejections of which the line shows where the identity ends and where the line ends.
-/
structure IsLegible (rejection : Rejection) : Prop where
  identity : '\n' ∉ rejection.identity.toList
  reason : '\n' ∉ rejection.reason.toList
  colon : ':' ∉ rejection.reason.toList

theorem isLegible_of_classify {declaration : Declaration} {rejection : Rejection}
    (h : declaration.classify = .error rejection) (hidentity : '\n' ∉ rejection.identity.toList) :
    rejection.IsLegible := by
  obtain ⟨mismatch, _, rfl⟩ := Declaration.classify_eq_error_iff.mp h
  constructor
  · exact hidentity
  · exact mismatch.notMem_reason.1
  · exact mismatch.notMem_reason.2

theorem toList_line (rejection : Rejection) :
    rejection.line.toList =
      "  - ".toList ++ rejection.identity.toList ++ ':' :: ' ' :: rejection.reason.toList := by
  simp [line]

variable {rejection other : Rejection}

theorem IsLegible.newline_notMem_line (h : rejection.IsLegible) : '\n' ∉ rejection.line.toList := by
  rw [toList_line]
  simp [h.identity, h.reason]

/--
The reason begins behind the last colon of the line, because an identity may contain colons and a
reason does not.
-/
theorem IsLegible.eq_of_line_eq (h : rejection.IsLegible) (hother : other.IsLegible)
    (heq : rejection.line = other.line) :
    rejection.identity = other.identity ∧ rejection.reason = other.reason := by
  have hcolon {text : List Char} (htext : ':' ∉ text) : ':' ∉ ' ' :: text := by simp [htext]
  rw [← String.toList_inj, toList_line, toList_line] at heq
  obtain ⟨hidentity, hreason⟩ :=
    Text.eq_of_notMem_right (hcolon h.colon) (hcolon hother.colon) heq
  constructor
  · exact String.toList_inj.mp (List.append_cancel_left hidentity)
  · exact String.toList_inj.mp (List.cons.inj hreason).2

theorem map_eq_of_map_line_eq {rejections others : List Rejection}
    (hrejections : ∀ rejection ∈ rejections, rejection.IsLegible)
    (hothers : ∀ other ∈ others, other.IsLegible) (h : rejections.map line = others.map line) :
    rejections.map (fun rejection => (rejection.identity, rejection.reason)) =
      others.map fun other => (other.identity, other.reason) := by
  induction rejections generalizing others with
  | nil =>
    obtain rfl := List.map_eq_nil_iff.mp h.symm
    rfl
  | cons rejection rejections ih =>
    cases others with
    | nil => cases h
    | cons other others =>
      rw [List.forall_mem_cons] at hrejections hothers
      obtain ⟨hline, hlines⟩ := List.cons.inj h
      obtain ⟨hidentity, hreason⟩ := hrejections.1.eq_of_line_eq hothers.1 hline
      rw [List.map_cons, List.map_cons, hidentity, hreason, ih hrejections.2 hothers.2 hlines]

end Rejection

namespace Fault

theorem newline_notMem_header (count : Nat) : '\n' ∉ (header count).toList := by
  have hcount : '\n' ∉ (toString count).toList := Text.notMem_toString (by decide) count
  unfold header
  rw [String.toList_append, List.mem_append]
  rintro (hmem | hmem)
  · exact hcount hmem
  · exact Text.notMem_of_eq_ofList rfl (by decide) hmem

theorem message_unconfigured (rejections : List Rejection) :
    (unconfigured rejections).message =
      "\n".intercalate (header rejections.length :: rejections.map Rejection.line) := by
  rfl

theorem newline_notMem_lines {rejections : List Rejection}
    (h : ∀ rejection ∈ rejections, rejection.IsLegible) :
    ∀ line ∈ header rejections.length :: rejections.map Rejection.line, '\n' ∉ line.toList := by
  rw [List.forall_mem_cons, List.forall_mem_map]
  constructor
  · apply newline_notMem_header
  · intro rejection hmem
    exact (h rejection hmem).newline_notMem_line

theorem map_eq_of_message_eq {rejections others : List Rejection}
    (hrejections : ∀ rejection ∈ rejections, rejection.IsLegible)
    (hothers : ∀ other ∈ others, other.IsLegible)
    (h : (unconfigured rejections).message = (unconfigured others).message) :
    rejections.map (fun rejection => (rejection.identity, rejection.reason)) =
      others.map fun other => (other.identity, other.reason) := by
  rw [message_unconfigured, message_unconfigured] at h
  have hlines :
      header rejections.length :: rejections.map Rejection.line =
        header others.length :: others.map Rejection.line := by
    refine Text.eq_of_intercalate_eq ?_ (newline_notMem_lines hrejections)
      (newline_notMem_lines hothers) ?_ ?_ h
    · rfl
    · nofun
    · nofun
  exact Rejection.map_eq_of_map_line_eq hrejections hothers (List.cons.inj hlines).2

/--
What a fault says of a rejection in its details: all that the rejection would report on its own.
-/
def Lists (entry : Json) (rejection : Rejection) : Prop :=
  ∃ details,
    (rejected rejection).details = some details ∧
      entry =
        .object
          [("code", .string (rejected rejection).code),
            ("message", .string (rejected rejection).message), ("details", details)]

theorem exists_details_unconfigured (rejections : List Rejection) :
    ∃ entries,
      (unconfigured rejections).details = some (.object [("errors", .array entries)]) ∧
        List.Forall₂ Lists entries rejections := by
  refine ⟨rejections.map details.entry, rfl, ?_⟩
  rw [List.forall₂_map_left_iff, List.forall₂_same]
  intro rejection _
  exact ⟨rejection.details, rfl, rfl⟩

theorem exists_message_unconfigured {rejections : List Rejection} (hne : rejections ≠ []) :
    ∃ lines,
      (unconfigured rejections).message =
        toString rejections.length ++ " mediator(s) failed configuration:\n" ++ lines := by
  refine ⟨"\n".intercalate (rejections.map Rejection.line), ?_⟩
  cases rejections with
  | nil => exact absurd rfl hne
  | cons rejection rejections =>
    rw [message_unconfigured, List.map_cons, String.intercalate_cons_cons]
    simp [header, String.append_assoc]

end Fault

/--
What a failed build says of the declarations: which of them are rejected and how, in the details of
the fault as well, and how many they are.
-/
structure Rejects (declarations : List Declaration) (rejections : List Rejection) : Prop where
  ordered :
    List.SublistForall₂ (fun rejection declaration => declaration.classify = .error rejection)
      rejections declarations
  nodup : (rejections.map (·.identity)).Nodup
  mem_identities_iff :
    ∀ identity,
      identity ∈ rejections.map (·.identity) ↔
        ∃ declaration ∈ declarations,
          declaration.signature.identity = identity ∧
            ∃ rejection, declaration.classify = .error rejection
  details :
    ∃ entries,
      (Fault.unconfigured rejections).details = some (.object [("errors", .array entries)]) ∧
        List.Forall₂ Fault.Lists entries rejections
  message :
    ∃ lines,
      (Fault.unconfigured rejections).message =
        toString rejections.length ++ " mediator(s) failed configuration:\n" ++ lines

namespace Report

variable {declarations : List Declaration}

theorem mem_rejections_ofDeclarations_false_iff {rejection : Rejection} :
    rejection ∈ (ofDeclarations false declarations).rejections ↔
      ∃ declaration ∈ declarations, declaration.classify = .error rejection := by
  unfold ofDeclarations
  rw [mem_rejections_ofOutcomes, Registry.classifyAll_false, List.mem_map]

theorem sublistForall₂_rejections (declarations : List Declaration) :
    List.SublistForall₂ (fun rejection declaration => declaration.classify = .error rejection)
      (ofDeclarations false declarations).rejections declarations := by
  induction declarations with
  | nil => exact .nil
  | cons declaration declarations ih =>
    cases h : declaration.classify with
    | ok configuration =>
      rw [ofDeclarations_cons_of_ok h]
      exact ih.cons_right
    | error rejection =>
      rw [ofDeclarations_false_cons_of_error h]
      exact .cons h ih

theorem rejects_ofDeclarations (hnodup : (declarations.map (·.identity)).Nodup)
    (hne : (ofDeclarations false declarations).rejections ≠ []) :
    Rejects declarations (ofDeclarations false declarations).rejections := by
  constructor
  · apply sublistForall₂_rejections
  · have hidentities := (covers_ofDeclarations declarations).identities.symm.nodup hnodup
    exact (List.nodup_append.mp hidentities).2.1
  · intro identity
    simp only [List.mem_map, mem_rejections_ofDeclarations_false_iff]
    constructor
    · rintro ⟨rejection, ⟨declaration, hmem, hclassify⟩, rfl⟩
      have hidentity := Declaration.identity_eq_of_classify_error hclassify
      exact ⟨declaration, hmem, hidentity.symm, rejection, hclassify⟩
    · rintro ⟨declaration, hmem, rfl, rejection, hclassify⟩
      have hidentity := Declaration.identity_eq_of_classify_error hclassify
      exact ⟨rejection, ⟨declaration, hmem, hclassify⟩, hidentity⟩
  · apply Fault.exists_details_unconfigured
  · exact Fault.exists_message_unconfigured hne

theorem forall₂_configurations
    (h : ∀ declaration ∈ declarations,
      ∃ configuration, declaration.classify = .ok configuration) :
    List.Forall₂ (fun declaration configuration => declaration.classify = .ok configuration)
      declarations (ofDeclarations false declarations).configurations := by
  induction declarations with
  | nil => exact .nil
  | cons declaration declarations ih =>
    rw [List.forall_mem_cons] at h
    obtain ⟨⟨configuration, hclassify⟩, hrest⟩ := h
    rw [ofDeclarations_cons_of_ok hclassify]
    exact .cons hclassify (ih hrest)

end Report

namespace Registry

/--
What a build answers over declarations: either all of their configurations or all of their
rejections.
-/
structure Builds (declarations : List Declaration) (answer : Except Fault Answer) : Prop where
  fails_iff :
    (∃ rejections, answer = .error (.unconfigured rejections)) ↔
      ∃ declaration ∈ declarations, ∃ rejection, declaration.classify = .error rejection
  rejects :
    ∀ rejections, answer = .error (.unconfigured rejections) → Rejects declarations rejections
  configurations :
    (¬∃ declaration ∈ declarations, ∃ rejection, declaration.classify = .error rejection) →
      ∃ configurations,
        answer = .ok (.configurations configurations) ∧
          List.Forall₂ (fun declaration configuration => declaration.classify = .ok configuration)
            declarations configurations

/--
A build after steps on an empty registry fails with rejections.
-/
def FailsWith (steps : List Step) (rejections : List Rejection) : Prop :=
  (((empty false).after steps).step .build).answer = .error (.unconfigured rejections)

variable {registry : Registry} {rejections : List Rejection}

theorem build_answer_eq_error_iff (hfailFast : registry.failFast = false) :
    (registry.step .build).answer = .error (.unconfigured rejections) ↔
      (Report.ofDeclarations false registry.declarations).rejections ≠ [] ∧
        rejections = (Report.ofDeclarations false registry.declarations).rejections := by
  rw [step_build_answer_eq_error_iff, report_eq_ofDeclarations, hfailFast]

theorem exists_build_answer_eq_error_iff (hfailFast : registry.failFast = false) :
    (∃ rejections, (registry.step .build).answer = .error (.unconfigured rejections)) ↔
      ∃ declaration ∈ registry.declarations,
        ∃ rejection, declaration.classify = .error rejection := by
  constructor
  · rintro ⟨rejections, hanswer⟩
    obtain ⟨hne, rfl⟩ := (build_answer_eq_error_iff hfailFast).mp hanswer
    obtain ⟨rejection, hmem⟩ := List.exists_mem_of_ne_nil _ hne
    obtain ⟨declaration, hdeclaration, hclassify⟩ :=
      Report.mem_rejections_ofDeclarations_false_iff.mp hmem
    exact ⟨declaration, hdeclaration, rejection, hclassify⟩
  · rintro ⟨declaration, hdeclaration, rejection, hclassify⟩
    refine ⟨_, (build_answer_eq_error_iff hfailFast).mpr ⟨?_, rfl⟩⟩
    apply List.ne_nil_of_mem
    exact Report.mem_rejections_ofDeclarations_false_iff.mpr ⟨declaration, hdeclaration, hclassify⟩

theorem WellFormed.builds (h : registry.WellFormed) (hfailFast : registry.failFast = false) :
    Builds registry.declarations (registry.step .build).answer := by
  constructor
  · exact exists_build_answer_eq_error_iff hfailFast
  · intro rejections hanswer
    obtain ⟨hne, rfl⟩ := (build_answer_eq_error_iff hfailFast).mp hanswer
    exact Report.rejects_ofDeclarations h.nodup hne
  · intro hnone
    have hclassify :
        ∀ declaration ∈ registry.declarations,
          ∃ configuration, declaration.classify = .ok configuration := by
      intro declaration hmem
      cases hclassify : declaration.classify with
      | ok configuration => exact ⟨configuration, rfl⟩
      | error rejection => exact absurd ⟨declaration, hmem, rejection, hclassify⟩ hnone
    refine ⟨registry.report.configurations, ?_, ?_⟩
    · rw [step_build_answer_eq_ok_iff, report_eq_ofDeclarations, Report.rejections_eq_nil_iff]
      exact ⟨hclassify, rfl⟩
    · rw [report_eq_ofDeclarations, hfailFast]
      exact Report.forall₂_configurations hclassify

theorem FailsWith.isLegible {steps : List Step} (h : FailsWith steps rejections)
    (hidentities : ∀ rejection ∈ rejections, '\n' ∉ rejection.identity.toList) :
    ∀ rejection ∈ rejections, rejection.IsLegible := by
  intro rejection hmem
  obtain ⟨_, rfl⟩ := (build_answer_eq_error_iff (failFast_after _ steps)).mp h
  obtain ⟨declaration, _, hclassify⟩ := Report.mem_rejections_ofDeclarations_false_iff.mp hmem
  exact Rejection.isLegible_of_classify hclassify (hidentities rejection hmem)

/--
A build that fails reports every declaration at fault once, and its message tells which they are and
why. Any other build answers with one configuration for each declaration.
-/
theorem build_reports_every_rejection :
    (∀ steps, ∃ declarations,
      (((empty false).after steps).step .list).answer = .ok (.declarations declarations) ∧
        Builds declarations (((empty false).after steps).step .build).answer) ∧
    (∀ steps others rejections otherRejections,
      FailsWith steps rejections → FailsWith others otherRejections →
        (∀ rejection ∈ rejections, '\n' ∉ rejection.identity.toList) →
          (∀ rejection ∈ otherRejections, '\n' ∉ rejection.identity.toList) →
            (Fault.unconfigured rejections).message =
                (Fault.unconfigured otherRejections).message →
              rejections.map (fun rejection => (rejection.identity, rejection.reason)) =
                otherRejections.map fun rejection => (rejection.identity, rejection.reason)) := by
  constructor
  · intro steps
    refine ⟨((empty false).after steps).declarations, rfl, ?_⟩
    exact ((wellFormed_empty false).after steps).builds (failFast_after _ steps)
  · intro steps others rejections otherRejections hfails hothersFail hidentities hothers hmessage
    apply Fault.map_eq_of_message_eq
    · exact hfails.isLegible hidentities
    · exact hothersFail.isLegible hothers
    · exact hmessage

theorem build_reports_every_rejection_of_colons :
    let accepted : Declaration :=
      {
        signature := { identity := "Prices#quote", returns := .payload "Quote", parameters := [] }
        incoming := none
        outgoing := some { channel := "quotes", provider := none }
      }
    let rejected (name : String) : Declaration :=
      {
        signature :=
          { identity := "  - Prices: all", returns := ⟨.void, name, []⟩, parameters := [] }
        incoming := none
        outgoing := some { channel := "quotes", provider := none }
      }
    let steps : List Step := [.register (rejected "void")]
    let others : List Step := [.register accepted, .register (rejected "unit"), .compute]
    ∃ rejections otherRejections,
      FailsWith steps rejections ∧ FailsWith others otherRejections ∧
        rejections ≠ otherRejections ∧ Rejects [accepted, rejected "unit"] otherRejections ∧
          rejections.map (fun rejection => (rejection.identity, rejection.reason)) =
            otherRejections.map fun rejection => (rejection.identity, rejection.reason) := by
  intro accepted rejected steps others
  have hidentity : '\n' ∉ "  - Prices: all".toList :=
    Text.notMem_of_eq_ofList rfl (by decide)
  obtain ⟨hbuilds, hmessages⟩ := build_reports_every_rejection
  obtain ⟨declarations, hlist, hothers⟩ := hbuilds others
  obtain rfl : [accepted, rejected "unit"] = declarations := by
    injection hlist with hlist
    injection hlist
  refine ⟨_, _, rfl, rfl, ?_, hothers.rejects _ rfl, ?_⟩
  · decide
  · exact hmessages steps others _ _ rfl rfl (List.forall_mem_singleton.mpr hidentity)
      (List.forall_mem_singleton.mpr hidentity) rfl

end Registry

end Mediation

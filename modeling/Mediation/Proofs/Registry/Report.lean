import Mathlib.Data.List.Infix
import Mediation.Registry.Pass

/-!
This module contains how the report of a pass depends on the declarations: what it owes to the first
of them, what more declarations add to it, and what stopping at the first rejection cuts off.
-/

namespace Mediation

theorem exists_cons_eq_append_cons_iff {first : α} {rest : List α} {p : List α → α → Prop} :
    (∃ earlier a later, first :: rest = earlier ++ a :: later ∧ p earlier a) ↔
      p [] first ∨ ∃ earlier a later, rest = earlier ++ a :: later ∧ p (first :: earlier) a := by
  constructor
  · rintro ⟨earlier, a, later, heq, h⟩
    rcases List.cons_eq_append_iff.mp heq with ⟨rfl, htail⟩ | ⟨earlier, rfl, rfl⟩
    · cases htail
      exact .inl h
    · exact .inr ⟨earlier, a, later, rfl, h⟩
  · rintro (h | ⟨earlier, a, later, rfl, h⟩)
    · exact ⟨[], first, rest, rfl, h⟩
    · exact ⟨first :: earlier, a, later, rfl, h⟩

namespace Report

theorem complete_eq_ok_iff {report : Report} {configurations : List Configuration} :
    report.complete = .ok configurations ↔
      report.rejections = [] ∧ report.configurations = configurations := by
  unfold complete
  cases report.rejections <;> simp

theorem complete_eq_error_iff {report : Report} {fault : Fault} :
    report.complete = .error fault ↔
      report.rejections ≠ [] ∧ fault = .unconfigured report.rejections := by
  unfold complete
  cases report.rejections <;> simp [eq_comm]

def ofDeclarations (failFast : Bool) (declarations : List Declaration) : Report :=
  ofOutcomes (Registry.classifyAll failFast declarations)

variable {failFast : Bool} {declaration : Declaration} {declarations : List Declaration}

@[simp]
theorem ofDeclarations_nil :
    ofDeclarations failFast [] = { configurations := [], rejections := [] } := by
  rfl

theorem ofDeclarations_cons_of_ok {configuration : Configuration}
    (h : declaration.classify = .ok configuration) :
    ofDeclarations failFast (declaration :: declarations) =
      {
        configurations := configuration :: (ofDeclarations failFast declarations).configurations
        rejections := (ofDeclarations failFast declarations).rejections
      } := by
  unfold ofDeclarations
  rw [Registry.classifyAll, h]
  rfl

theorem ofDeclarations_false_cons_of_error {rejection : Rejection}
    (h : declaration.classify = .error rejection) :
    ofDeclarations false (declaration :: declarations) =
      {
        configurations := (ofDeclarations false declarations).configurations
        rejections := rejection :: (ofDeclarations false declarations).rejections
      } := by
  unfold ofDeclarations
  rw [Registry.classifyAll, h]
  rfl

theorem ofDeclarations_true_cons_of_error {rejection : Rejection}
    (h : declaration.classify = .error rejection) :
    ofDeclarations true (declaration :: declarations) =
      { configurations := [], rejections := [rejection] } := by
  unfold ofDeclarations
  rw [Registry.classifyAll, h]
  rfl

theorem exists_classify_of_mem {configuration : Configuration}
    (h : configuration ∈ (ofDeclarations failFast declarations).configurations) :
    ∃ declaration ∈ declarations, declaration.classify = .ok configuration := by
  unfold ofDeclarations at h
  rw [mem_configurations_ofOutcomes] at h
  have hmem := (Registry.classifyAll_isPrefix failFast declarations).mem h
  exact List.mem_map.mp hmem

theorem ofDeclarations_false_append (declarations added : List Declaration) :
    ofDeclarations false (declarations ++ added) =
      {
        configurations :=
          (ofDeclarations false declarations).configurations ++
            (ofDeclarations false added).configurations
        rejections :=
          (ofDeclarations false declarations).rejections ++ (ofDeclarations false added).rejections
      } := by
  induction declarations with
  | nil => simp
  | cons declaration declarations ih =>
    rw [List.cons_append]
    cases h : declaration.classify with
    | ok configuration =>
      rw [ofDeclarations_cons_of_ok h, ofDeclarations_cons_of_ok h, ih]
      simp
    | error rejection =>
      rw [ofDeclarations_false_cons_of_error h, ofDeclarations_false_cons_of_error h, ih]
      simp

theorem ofDeclarations_true_append_of_complete (declarations added : List Declaration)
    (h : (ofDeclarations true declarations).rejections = []) :
    ofDeclarations true (declarations ++ added) =
      {
        configurations :=
          (ofDeclarations true declarations).configurations ++
            (ofDeclarations true added).configurations
        rejections := (ofDeclarations true added).rejections
      } := by
  induction declarations with
  | nil => simp
  | cons declaration declarations ih =>
    rw [List.cons_append]
    cases hclassify : declaration.classify with
    | ok configuration =>
      rw [ofDeclarations_cons_of_ok hclassify] at h
      rw [ofDeclarations_cons_of_ok hclassify, ofDeclarations_cons_of_ok hclassify, ih h]
      simp
    | error rejection =>
      rw [ofDeclarations_true_cons_of_error hclassify] at h
      cases h

theorem ofDeclarations_true_append_of_rejected (declarations added : List Declaration)
    (h : (ofDeclarations true declarations).rejections ≠ []) :
    ofDeclarations true (declarations ++ added) = ofDeclarations true declarations := by
  induction declarations with
  | nil => simp at h
  | cons declaration declarations ih =>
    rw [List.cons_append]
    cases hclassify : declaration.classify with
    | ok configuration =>
      rw [ofDeclarations_cons_of_ok hclassify] at h
      rw [ofDeclarations_cons_of_ok hclassify, ofDeclarations_cons_of_ok hclassify, ih h]
    -- The pass stops here and does not notice what is behind.
    | error rejection =>
      rw [ofDeclarations_true_cons_of_error hclassify, ofDeclarations_true_cons_of_error hclassify]

theorem isPrefix_configurations {whole : List Declaration} (h : declarations <+: whole) :
    (ofDeclarations failFast declarations).configurations <+:
      (ofDeclarations failFast whole).configurations := by
  obtain ⟨added, rfl⟩ := h
  cases failFast with
  | false =>
    rw [ofDeclarations_false_append]
    apply List.prefix_append
  | true =>
    by_cases hcomplete : (ofDeclarations true declarations).rejections = []
    · rw [ofDeclarations_true_append_of_complete _ _ hcomplete]
      apply List.prefix_append
    · rw [ofDeclarations_true_append_of_rejected _ _ hcomplete]

theorem isPrefix_rejections {whole : List Declaration} (h : declarations <+: whole) :
    (ofDeclarations failFast declarations).rejections <+:
      (ofDeclarations failFast whole).rejections := by
  obtain ⟨added, rfl⟩ := h
  cases failFast with
  | false =>
    rw [ofDeclarations_false_append]
    apply List.prefix_append
  | true =>
    by_cases hcomplete : (ofDeclarations true declarations).rejections = []
    · rw [hcomplete]
      apply List.nil_prefix
    · rw [ofDeclarations_true_append_of_rejected _ _ hcomplete]

theorem rejections_true (declarations : List Declaration) :
    (ofDeclarations true declarations).rejections =
      (ofDeclarations false declarations).rejections.take 1 := by
  induction declarations with
  | nil => rfl
  | cons declaration declarations ih =>
    cases h : declaration.classify with
    | ok configuration => rw [ofDeclarations_cons_of_ok h, ofDeclarations_cons_of_ok h, ih]
    | error rejection =>
      rw [ofDeclarations_true_cons_of_error h, ofDeclarations_false_cons_of_error h]
      rfl

theorem configurations_true_isPrefix (declarations : List Declaration) :
    (ofDeclarations true declarations).configurations <+:
      (ofDeclarations false declarations).configurations := by
  induction declarations with
  | nil => rfl
  | cons declaration declarations ih =>
    cases h : declaration.classify with
    | ok configuration =>
      rw [ofDeclarations_cons_of_ok h, ofDeclarations_cons_of_ok h, List.cons_prefix_cons]
      exact ⟨rfl, ih⟩
    | error rejection =>
      rw [ofDeclarations_true_cons_of_error h]
      apply List.nil_prefix

theorem ofDeclarations_true_of_complete
    (h : (ofDeclarations false declarations).rejections = []) :
    ofDeclarations true declarations = ofDeclarations false declarations := by
  induction declarations with
  | nil => rfl
  | cons declaration declarations ih =>
    cases hclassify : declaration.classify with
    | ok configuration =>
      rw [ofDeclarations_cons_of_ok hclassify] at h
      rw [ofDeclarations_cons_of_ok hclassify, ofDeclarations_cons_of_ok hclassify, ih h]
    | error rejection =>
      rw [ofDeclarations_false_cons_of_error hclassify] at h
      cases h

/--
A pass gets beyond declarations unless it stops at the first rejection and rejects one of them.
-/
def GetsBeyond (failFast : Bool) (declarations : List Declaration) : Prop :=
  failFast = true →
    ∀ declaration ∈ declarations, ∃ configuration, declaration.classify = .ok configuration

theorem getsBeyond_nil (failFast : Bool) : GetsBeyond failFast [] := by
  intro _ declaration hmem
  cases hmem

theorem getsBeyond_cons_of_ok {configuration : Configuration}
    (h : declaration.classify = .ok configuration) :
    GetsBeyond failFast (declaration :: declarations) ↔ GetsBeyond failFast declarations := by
  unfold GetsBeyond
  rw [List.forall_mem_cons, h]
  simp

theorem getsBeyond_cons_of_error {rejection : Rejection}
    (h : declaration.classify = .error rejection) :
    GetsBeyond failFast (declaration :: declarations) ↔ failFast = false := by
  unfold GetsBeyond
  rw [List.forall_mem_cons, h]
  simp

/--
A pass finds a configuration by classifying a declaration that it gets as far as.
-/
theorem mem_configurations_ofDeclarations_iff {configuration : Configuration} :
    configuration ∈ (ofDeclarations failFast declarations).configurations ↔
      ∃ earlier declaration later,
        declarations = earlier ++ declaration :: later ∧
          GetsBeyond failFast earlier ∧ declaration.classify = .ok configuration := by
  induction declarations with
  | nil => simp
  | cons first rest ih =>
    rw [exists_cons_eq_append_cons_iff]
    cases hfirst : first.classify with
    | ok found =>
      rw [ofDeclarations_cons_of_ok hfirst, List.mem_cons, ih]
      simp only [getsBeyond_nil, getsBeyond_cons_of_ok hfirst, Except.ok.injEq, true_and, eq_comm]
    | error rejection =>
      simp only [getsBeyond_cons_of_error hfirst]
      cases failFast with
      | false =>
        rw [ofDeclarations_false_cons_of_error hfirst, ih]
        simp [GetsBeyond]
      | true =>
        rw [ofDeclarations_true_cons_of_error hfirst]
        simp

end Report

/--
The longest front part of a list of declarations in which every declaration can be classified.
-/
structure LongestClassified (classified declarations : List Declaration) : Prop where
  isPrefix : classified <+: declarations
  classify_eq_ok :
    ∀ declaration ∈ classified, ∃ configuration, declaration.classify = .ok configuration
  longest :
    ∀ other, other <+: declarations →
      (∀ declaration ∈ other, ∃ configuration, declaration.classify = .ok configuration) →
        other <+: classified

theorem longestClassified_nil : LongestClassified [] [] := by
  constructor
  · rfl
  · intro declaration hmem
    cases hmem
  · intro other hother _
    exact hother

theorem LongestClassified.cons {classified declarations : List Declaration}
    {declaration : Declaration} {configuration : Configuration}
    (hclassify : declaration.classify = .ok configuration)
    (h : LongestClassified classified declarations) :
    LongestClassified (declaration :: classified) (declaration :: declarations) := by
  constructor
  · rw [List.cons_prefix_cons]
    exact ⟨rfl, h.isPrefix⟩
  · intro member hmem
    rcases List.mem_cons.mp hmem with rfl | hmem
    · exact ⟨configuration, hclassify⟩
    · exact h.classify_eq_ok member hmem
  · intro other hother hall
    cases other with
    | nil => apply List.nil_prefix
    | cons first rest =>
      rw [List.cons_prefix_cons] at hother ⊢
      refine ⟨hother.1, h.longest rest hother.2 ?_⟩
      intro member hmem
      exact hall member (List.mem_cons_of_mem _ hmem)

theorem longestClassified_nil_cons {declarations : List Declaration} {declaration : Declaration}
    {rejection : Rejection} (hclassify : declaration.classify = .error rejection) :
    LongestClassified [] (declaration :: declarations) := by
  constructor
  · apply List.nil_prefix
  · intro member hmem
    cases hmem
  · intro other hother hall
    cases other with
    | nil => rfl
    -- A longer one would have to begin with the declaration that is rejected.
    | cons first rest =>
      rw [List.cons_prefix_cons] at hother
      obtain ⟨configuration, hok⟩ := hall first List.mem_cons_self
      rw [hother.1, hclassify] at hok
      cases hok

theorem exists_longestClassified (declarations : List Declaration) :
    ∃ classified,
      LongestClassified classified declarations ∧
        classified.map Declaration.classify =
          (Report.ofDeclarations true declarations).configurations.map .ok := by
  induction declarations with
  | nil => exact ⟨[], longestClassified_nil, rfl⟩
  | cons declaration declarations ih =>
    cases h : declaration.classify with
    | ok configuration =>
      obtain ⟨classified, hlongest, hmap⟩ := ih
      refine ⟨declaration :: classified, hlongest.cons h, ?_⟩
      rw [Report.ofDeclarations_cons_of_ok h, List.map_cons, List.map_cons, hmap, h]
    | error rejection =>
      refine ⟨[], longestClassified_nil_cons h, ?_⟩
      rw [Report.ofDeclarations_true_cons_of_error h]
      rfl

namespace Registry

theorem report_eq_ofDeclarations (registry : Registry) :
    registry.report = .ofDeclarations registry.failFast registry.declarations := by
  rfl

theorem get?_of_isPrefix {registry other : Registry} {identity : String}
    {configuration : Configuration} (h : registry.configurations <+: other.configurations)
    (hget : registry.get? identity = some configuration) :
    other.get? identity = some configuration := by
  unfold get? at hget ⊢
  exact h.find?_eq_some hget

end Registry

end Mediation

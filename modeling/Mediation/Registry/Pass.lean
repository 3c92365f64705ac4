import Mediation.Registry.Basic

/-!
This module contains the pass over a registry that classifies its declarations.
-/

namespace Mediation

/--
What a pass has found, in the order of registration.
-/
structure Report where
  configurations : List Configuration
  rejections : List Rejection

namespace Report

/--
Sort the outcomes of classifications.
-/
def ofOutcomes : List (Except Rejection Configuration) → Report
  | [] => { configurations := [], rejections := [] }
  | .ok configuration :: outcomes =>
    let report := ofOutcomes outcomes
    { report with configurations := configuration :: report.configurations }
  | .error rejection :: outcomes =>
    let report := ofOutcomes outcomes
    { report with rejections := rejection :: report.rejections }

theorem mem_configurations_ofOutcomes (outcomes : List (Except Rejection Configuration))
    (configuration : Configuration) :
    configuration ∈ (ofOutcomes outcomes).configurations ↔ .ok configuration ∈ outcomes := by
  induction outcomes with
  | nil => simp [ofOutcomes]
  | cons outcome outcomes ih => cases outcome <;> simp [ofOutcomes, ih]

theorem mem_rejections_ofOutcomes (outcomes : List (Except Rejection Configuration))
    (rejection : Rejection) :
    rejection ∈ (ofOutcomes outcomes).rejections ↔ .error rejection ∈ outcomes := by
  induction outcomes with
  | nil => simp [ofOutcomes]
  | cons outcome outcomes ih => cases outcome <;> simp [ofOutcomes, ih]

def complete (report : Report) : Except Fault (List Configuration) :=
  match report.rejections with
  | [] => .ok report.configurations
  | rejections => .error (.unconfigured rejections)

end Report

namespace Registry

/--
Classify declarations one after the other, up to the first rejection if that is asked for.
-/
def classifyAll (failFast : Bool) : List Declaration → List (Except Rejection Configuration)
  | [] => []
  | declaration :: declarations =>
    match declaration.classify with
    | .ok configuration => .ok configuration :: classifyAll failFast declarations
    | .error rejection =>
      .error rejection :: if failFast then [] else classifyAll failFast declarations

/--
Unless it is to stop early, a pass visits every declaration.
-/
theorem classifyAll_false (declarations : List Declaration) :
    classifyAll false declarations = declarations.map Declaration.classify := by
  induction declarations with
  | nil => rfl
  | cons declaration declarations ih =>
    unfold classifyAll
    split <;> simp_all

/--
A pass that stops early visits the declarations that a full pass visits first.
-/
theorem classifyAll_isPrefix (failFast : Bool) (declarations : List Declaration) :
    classifyAll failFast declarations <+: declarations.map Declaration.classify := by
  induction declarations with
  | nil => simp [classifyAll]
  | cons declaration declarations ih =>
    unfold classifyAll
    split
    next configuration h => simpa [h] using ih
    next rejection h =>
      cases failFast with
      | true => simp [h]
      | false => simpa [h] using ih

/--
The outcomes of a pass over the declarations, one for each that the pass visits.
-/
def outcomes (registry : Registry) : List (Except Rejection Configuration) :=
  classifyAll registry.failFast registry.declarations

def report (registry : Registry) : Report :=
  .ofOutcomes registry.outcomes

/--
The registry after a pass, which leaves nothing of the pass before it.
-/
def afterPass (registry : Registry) : Registry :=
  { registry with configurations := registry.report.configurations }

end Registry

end Mediation

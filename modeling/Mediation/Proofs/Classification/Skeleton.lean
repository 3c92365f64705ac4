import Mediation.Descriptor.Construction
import Mediation.Proofs.Classification.Comparison
import Mediation.Proofs.Classification.Decision

/-!
This module contains the part of a declaration that its classification depends on: which sides are
bound, the kinds of the return type and of the first parameter, the number of parameters, and which
of the first two type arguments are declared and which of them are envelopes. Whatever else a
declaration says is repeated in reports but never decides anything.
-/

namespace Mediation

/--
Two type arguments that a classification cannot tell apart.
-/
inductive SameElement : Option Descriptor → Option Descriptor → Prop where
  | absent : SameElement none none
  | envelope {left right : Descriptor} :
    left.kind = .envelope → right.kind = .envelope → SameElement (some left) (some right)
  | other {left right : Descriptor} :
    left.kind ≠ .envelope → right.kind ≠ .envelope → SameElement (some left) (some right)

/--
Two types that a classification cannot tell apart.
-/
structure Descriptor.SameSkeleton (left right : Descriptor) : Prop where
  kind : left.kind = right.kind
  first : SameElement left.arguments[0]? right.arguments[0]?
  second : SameElement left.arguments[1]? right.arguments[1]?

structure Signature.SameSkeleton (left right : Signature) : Prop where
  returns : left.returns.SameSkeleton right.returns
  length : left.parameters.length = right.parameters.length
  first :
    ∀ leftFirst rightFirst,
      left.parameters[0]? = some leftFirst → right.parameters[0]? = some rightFirst →
        leftFirst.SameSkeleton rightFirst

/--
Two declarations that a classification cannot tell apart.
-/
structure Declaration.SameSkeleton (left right : Declaration) : Prop where
  incoming : left.incoming.isSome = right.incoming.isSome
  outgoing : left.outgoing.isSome = right.outgoing.isSome
  signature : left.signature.SameSkeleton right.signature

theorem Descriptor.carried_of_kind_ne {type : Descriptor} (h : type.kind ≠ .envelope) :
    type.carried = .payload := by
  unfold carried
  rw [if_neg h]

namespace SameElement

theorem symm {left right : Option Descriptor} (h : SameElement left right) :
    SameElement right left := by
  cases h with
  | absent => exact .absent
  | envelope hleft hright => exact .envelope hright hleft
  | other hleft hright => exact .other hright hleft

theorem map_carried {left right : Option Descriptor} (h : SameElement left right) :
    left.map Descriptor.carried = right.map Descriptor.carried := by
  cases h with
  | absent => rfl
  | envelope hleft hright => simp [Descriptor.carried, hleft, hright]
  | other hleft hright =>
    simp [Descriptor.carried_of_kind_ne hleft, Descriptor.carried_of_kind_ne hright]

theorem keepsElement {left right : Option Descriptor} (h : SameElement left right) :
    KeepsElement left right := by
  intro type hleft
  have hflavour := h.map_carried
  rw [hleft, Option.map_some, eq_comm, Option.map_eq_some_iff] at hflavour
  obtain ⟨other, hright, heq⟩ := hflavour
  exact ⟨other, hright, heq.symm⟩

theorem declaresToo {left right : Option Descriptor} (h : SameElement left right) :
    DeclaresToo left right :=
  h.keepsElement.declaresToo

end SameElement

namespace Descriptor.SameSkeleton

variable {left right : Descriptor}

theorem symm (h : left.SameSkeleton right) : right.SameSkeleton left := by
  constructor
  · exact h.kind.symm
  · exact h.first.symm
  · exact h.second.symm

theorem alike (h : left.SameSkeleton right) : left.Alike SameElement right := by
  constructor
  · exact h.kind
  · exact h.first
  · exact h.second

end Descriptor.SameSkeleton

namespace Signature.SameSkeleton

variable {left right : Signature} {shape : Shape} {modes : Modes}

theorem symm (h : left.SameSkeleton right) : right.SameSkeleton left := by
  constructor
  · exact h.returns.symm
  · exact h.length.symm
  · intro rightFirst leftFirst hright hleft
    exact (h.first _ _ hleft hright).symm

theorem alike (h : left.SameSkeleton right) : left.Alike SameElement right := by
  constructor
  · exact h.returns.alike
  · exact h.length
  · intro leftFirst rightFirst hleft hright
    exact (h.first _ _ hleft hright).alike

/--
A row of the table that lists a signature lists the other one as well, with the same modes.
-/
theorem matches_of_matches (h : left.SameSkeleton right) (hmatches : left.Matches shape modes) :
    right.Matches shape modes := by
  obtain ⟨production, hright, heq | ⟨_, _, habsent, hleft, heq⟩⟩ :=
    (h.alike.mono SameElement.keepsElement).exists_matches hmatches
  · rw [heq] at hright
    exact hright
  -- The stream that is returned declares its element in neither signature.
  · rw [h.symm.alike.returns.element.declaresToo habsent, Option.elim_none, ← hleft] at heq
    rw [heq] at hright
    exact hright

theorem violates_iff (h : left.SameSkeleton right) (mismatch : Mismatch) :
    left.Violates mismatch ↔ right.Violates mismatch := by
  constructor
  · exact (h.symm.alike.mono SameElement.declaresToo).violates_of_violates
  · exact (h.alike.mono SameElement.declaresToo).violates_of_violates

theorem modes_eq (h : left.SameSkeleton right) (shape : Shape) :
    left.modes shape = right.modes shape := by
  cases hleft : left.modes shape with
  | ok modes =>
    symm
    rw [modes_eq_ok_iff] at hleft ⊢
    exact h.matches_of_matches hleft
  | error mismatch =>
    symm
    rw [modes_eq_error_iff] at hleft ⊢
    rw [← h.returns.kind]
    apply hleft.of_violates ((h.violates_iff _).mp hleft.violates)
    intro passed _
    exact (h.violates_iff passed).mpr

end Signature.SameSkeleton

namespace Declaration.SameSkeleton

variable {left right : Declaration}

theorem shape_eq (h : left.SameSkeleton right) : left.shape = right.shape := by
  have hincoming := h.incoming
  have houtgoing := h.outgoing
  have hmaps := h.signature.alike.mapsStreams_eq
  rcases left with ⟨_, _ | _, _ | _⟩
  all_goals
    rcases right with ⟨_, _ | _, _ | _⟩
    all_goals simp_all [shape]

/--
Declarations with the same skeleton are classified with the same verdict, in the same shape and with
the same modes, or for the same reason.
-/
theorem classify_agrees (h : left.SameSkeleton right) :
    (∃ configuration other,
      left.classify = .ok configuration ∧ right.classify = .ok other ∧
        configuration.shape = other.shape ∧ configuration.toModes = other.toModes) ∨
    (∃ rejection other,
      left.classify = .error rejection ∧ right.classify = .error other ∧
        rejection.code = other.code ∧ rejection.context = other.context ∧
          rejection.reason = other.reason) := by
  unfold classify
  rw [h.shape_eq, h.signature.modes_eq]
  cases right.signature.modes right.shape with
  | ok modes =>
    left
    refine ⟨_, _, rfl, rfl, ?_, rfl⟩
    exact h.shape_eq
  | error mismatch =>
    right
    exact ⟨_, _, rfl, rfl, rfl, rfl, rfl⟩

theorem classify_agrees_of_renamed :
    let left : Declaration :=
      {
        signature :=
          {
            identity := "Prices#enrich"
            returns := ⟨.stream, "Publisher", [⟨.envelope, "Message", [.void]⟩]⟩
            parameters := [⟨.payload, "Tick", [⟨.envelope, "Message", []⟩, .payload]⟩]
          }
        incoming := some { channel := "ticks", provider := none }
        outgoing := some { channel := "prices", provider := some "replay" }
      }
    let right : Declaration :=
      {
        signature :=
          {
            identity := ""
            returns := ⟨.stream, "Source", [⟨.envelope, "Record", []⟩]⟩
            parameters :=
              [⟨.payload, "Order",
                [⟨.envelope, "Message", []⟩, .void, ⟨.stream, "Publisher", []⟩]⟩]
          }
        incoming := some { channel := "", provider := some "" }
        outgoing := some { channel := "routed", provider := none }
      }
    left.SameSkeleton right ∧
      ∃ configuration other,
        left.classify = .ok configuration ∧ right.classify = .ok other ∧
          configuration.shape = other.shape ∧ configuration.toModes = other.toModes := by
  intro left right
  have hreturns : left.signature.returns.SameSkeleton right.signature.returns :=
    ⟨rfl, .envelope rfl rfl, .absent⟩
  have hsame : left.SameSkeleton right := by
    refine ⟨rfl, rfl, hreturns, rfl, ?_⟩
    rintro _ _ ⟨⟩ ⟨⟩
    exact ⟨rfl, .envelope rfl rfl, .other nofun nofun⟩
  refine ⟨hsame, ?_⟩
  rcases hsame.classify_agrees with h | ⟨_, _, herror, _⟩
  · exact h
  · cases herror

end Declaration.SameSkeleton

end Mediation

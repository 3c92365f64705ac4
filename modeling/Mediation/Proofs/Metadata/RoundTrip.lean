import Mediation.Metadata.Encoding
import Mediation.Proofs.Descriptor.Unambiguity
import Mediation.Proofs.Metadata.Grammar

/-!
This module contains the way of declarations into metadata and back. It says which declarations
metadata is able to express, that what is written of them describes them again, and that metadata
never describes any other.
-/

namespace Mediation

theorem Kind.defaultName_ne_empty (kind : Kind) : kind.defaultName ≠ "" := by
  cases kind <;> decide

/--
The declarations that metadata is able to express. An empty name cannot be written, and neither can
a channel with blanks around its name.
-/
structure Declaration.IsExpressible (declaration : Declaration) : Prop where
  identity : declaration.signature.identity ≠ ""
  returns : declaration.signature.returns.HasNames (· ≠ "")
  parameters : ∀ parameter ∈ declaration.signature.parameters, parameter.HasNames (· ≠ "")
  channels :
    ∀ side binding, declaration.binding? side = some binding →
      binding.channel ≠ "" ∧ Text.trim binding.channel = binding.channel

namespace Metadata

section Written

theorem describesEach_map {describes : Json → α → Prop} {write : α → Json} {elements : List α}
    (h : ∀ element ∈ elements, describes (write element) element) :
    DescribesEach describes (some (.array (elements.map write))) elements := by
  apply DescribesEach.array
  rw [List.forall₂_map_left_iff, List.forall₂_same]
  exact h

theorem describesType_toJson {type : Descriptor} (h : type.HasNames (· ≠ "")) :
    DescribesType type.toJson type := by
  induction h with
  | mk hname _ ih =>
    rw [Descriptor.toJson, Descriptor.eachToJson_eq_map]
    apply DescribesType.object
    · rfl
    · exact .written hname
    · exact describesEach_map ih

theorem describesSignature_toJson {signature : Signature} (hidentity : signature.identity ≠ "")
    (hreturns : signature.returns.HasNames (· ≠ ""))
    (hparameters : ∀ parameter ∈ signature.parameters, parameter.HasNames (· ≠ "")) :
    DescribesSignature signature.toJson signature := by
  rw [Signature.toJson, Descriptor.eachToJson_eq_map]
  apply DescribesSignature.object
  · rfl
  · exact hidentity
  · rfl
  · exact describesType_toJson hreturns
  · apply describesEach_map
    intro parameter hmem
    exact describesType_toJson (hparameters parameter hmem)

theorem describesBinding_toJson {binding : Binding} (hne : binding.channel ≠ "")
    (htrim : Text.trim binding.channel = binding.channel) :
    DescribesBinding binding.toJson binding := by
  have haudible : Text.isBlankText binding.channel = false := by
    unfold Text.isBlankText
    rw [htrim]
    simpa using hne
  rw [Text.isBlankText_eq_false_iff] at haudible
  rw [Text.trim_eq_iff] at htrim
  rcases binding with ⟨channel, _ | provider⟩
  · exact .object rfl haudible htrim rfl
  · exact .object rfl haudible htrim rfl

theorem describesSide_toJson {binding? : Option Binding}
    (h :
      ∀ binding, binding? = some binding →
        binding.channel ≠ "" ∧ Text.trim binding.channel = binding.channel) :
    DescribesSide (some (binding?.elim .null Binding.toJson)) binding? := by
  cases binding? with
  | none => exact .null
  | some binding =>
    obtain ⟨hne, htrim⟩ := h binding rfl
    exact .given (describesBinding_toJson hne htrim)

theorem describesDeclaration_toJson {declaration : Declaration} (h : declaration.IsExpressible) :
    DescribesDeclaration declaration.toJson declaration := by
  apply DescribesDeclaration.object
  · rfl
  · exact describesSignature_toJson h.identity h.returns h.parameters
  · exact describesSide_toJson (h.channels .incoming)
  · exact describesSide_toJson (h.channels .outgoing)

theorem describesManifest_encode {declarations : List Declaration}
    (h : ∀ declaration ∈ declarations, declaration.IsExpressible) :
    DescribesManifest (encode declarations) declarations := by
  apply DescribesManifest.array
  rw [List.forall₂_map_left_iff, List.forall₂_same]
  intro declaration hmem
  exact describesDeclaration_toJson (h declaration hmem)

end Written

section Described

theorem DescribesName.ne_empty {kind : Kind} {input : Option Json} {name : String}
    (h : DescribesName kind input name) : name ≠ "" := by
  cases h with
  | default => apply Kind.defaultName_ne_empty
  | written hname => exact hname

theorem hasNames_of_describesType (value : Json) :
    ∀ type, DescribesType value type → type.HasNames (· ≠ "") := by
  induction value using WrittenType.induction_on_arguments with
  | h value ih =>
    intro type hdescribes
    cases hdescribes with
    | object _ hname harguments =>
      constructor
      · exact hname.ne_empty
      · intro argument hmem
        obtain ⟨values, hlookup, inner, hinner, hargument⟩ :=
          harguments.exists_describes_of_mem argument hmem
        exact ih _ values rfl hlookup inner hinner argument hargument

theorem DescribesBinding.channel_trimmed {value : Json} {binding : Binding}
    (h : DescribesBinding value binding) :
    binding.channel ≠ "" ∧ Text.trim binding.channel = binding.channel := by
  cases h with
  | object _ haudible htrims _ =>
    constructor
    · rintro rfl
      obtain ⟨c, hmem, hblank⟩ := haudible
      have := htrims.mem_of_isBlank_eq_false hmem hblank
      simp at this
    · exact htrims.trim_core

theorem DescribesSide.channel_trimmed {input : Option Json} {binding : Binding}
    (h : DescribesSide input (some binding)) :
    binding.channel ≠ "" ∧ Text.trim binding.channel = binding.channel := by
  cases h with
  | given hdescribes => exact hdescribes.channel_trimmed

theorem DescribesDeclaration.isExpressible {value : Json} {declaration : Declaration}
    (h : DescribesDeclaration value declaration) : declaration.IsExpressible := by
  cases h with
  | object _ hsignature hincoming houtgoing =>
    cases hsignature with
    | object _ hidentity _ hreturns hparameters =>
      constructor
      · exact hidentity
      · exact hasNames_of_describesType _ _ hreturns
      · intro parameter hmem
        obtain ⟨_, _, value, _, hparameter⟩ := hparameters.exists_describes_of_mem parameter hmem
        exact hasNames_of_describesType value parameter hparameter
      · intro side binding hbinding
        cases side with
        | incoming =>
          change _ = _ at hbinding
          subst hbinding
          exact hincoming.channel_trimmed
        | outgoing =>
          change _ = _ at hbinding
          subst hbinding
          exact houtgoing.channel_trimmed

theorem DescribesManifest.isExpressible {value : Json} {declarations : List Declaration}
    (h : DescribesManifest value declarations) :
    ∀ declaration ∈ declarations, declaration.IsExpressible := by
  intro declaration hmem
  obtain ⟨_, hdescribes⟩ := h.exists_describes_of_mem declaration hmem
  exact hdescribes.isExpressible

end Described

theorem parseManifest_encode {declarations : List Declaration}
    (h : ∀ declaration ∈ declarations, declaration.IsExpressible) :
    parseManifest (some (encode declarations)) = .ok declarations := by
  rw [parses_manifest.ok_iff]
  exact ⟨_, rfl, describesManifest_encode h⟩

theorem isExpressible_of_parseManifest {input : Option Json} {declarations : List Declaration}
    (h : parseManifest input = .ok declarations) :
    ∀ declaration ∈ declarations, declaration.IsExpressible := by
  rw [parses_manifest.ok_iff] at h
  obtain ⟨value, _, hdescribes⟩ := h
  exact hdescribes.isExpressible

end Metadata

end Mediation

import Mediation.Proofs.Metadata.Grammar
import Mediation.Proofs.Metadata.Wording
import Mediation.Proofs.Registry.Invariant

/-!
This module contains the import of manifests: which entries are registered, at which one the import
stops and what for, and that only the declarations change.
-/

namespace Mediation

theorem Metadata.DescribesBinding.exists_isBlank_eq_false {value : Json} {binding : Binding}
    (h : DescribesBinding value binding) :
    ∃ c ∈ binding.channel.toList, Text.isBlank c = false := by
  obtain ⟨_, ⟨c, hmem, hblank⟩, htrims, _⟩ := h
  exact ⟨c, htrims.mem_of_isBlank_eq_false hmem hblank, hblank⟩

theorem Metadata.DescribesDeclaration.exists_describesSide {value : Json}
    {declaration : Declaration} (h : DescribesDeclaration value declaration) (side : Side) :
    ∃ input, DescribesSide input (declaration.binding? side) := by
  obtain ⟨_, _, hincoming, houtgoing⟩ := h
  cases side with
  | incoming => exact ⟨_, hincoming⟩
  | outgoing => exact ⟨_, houtgoing⟩

theorem Metadata.DescribesSide.exists_isBlank_eq_false {input : Option Json} {binding : Binding}
    (h : DescribesSide input (some binding)) :
    ∃ c ∈ binding.channel.toList, Text.isBlank c = false := by
  obtain _ | _ | hdescribes := h
  exact hdescribes.exists_isBlank_eq_false

/--
What a manifest describes is never bound to a channel with a blank name.
-/
theorem Metadata.DescribesDeclaration.blankSides_eq_nil {value : Json} {declaration : Declaration}
    (h : DescribesDeclaration value declaration) : declaration.blankSides = [] := by
  rw [Declaration.blankSides_eq_nil_iff]
  intro side binding hbinding
  obtain ⟨input, hdescribes⟩ := h.exists_describesSide side
  rw [hbinding] at hdescribes
  exact hdescribes.exists_isBlank_eq_false

theorem Metadata.DescribesManifest.blankSides_eq_nil {value : Json}
    {declarations : List Declaration} (h : DescribesManifest value declarations) :
    ∀ declaration ∈ declarations, declaration.blankSides = [] := by
  intro declaration hmem
  obtain ⟨_, hdescribes⟩ := h.exists_describes_of_mem declaration hmem
  exact hdescribes.blankSides_eq_nil

namespace Registry

/--
The entry at an index of a manifest cannot be registered behind those before it, with the code and
the fault that it is reported with. An entry without any binding is reported as such, even if its
identity is taken as well.
-/
inductive Blocks (registry : Registry) (declarations : List Declaration) (index : Nat) :
    String → Fault → Prop where
  | unbound {declaration : Declaration} :
    declarations[index]? = some declaration →
    declaration.incoming = none → declaration.outgoing = none →
      Blocks registry declarations index "NOT_A_MEDIATOR" (.notAMediator declaration.identity)
  | taken {declaration : Declaration} :
    declarations[index]? = some declaration →
    declaration.incoming.isSome ∨ declaration.outgoing.isSome →
    declaration.identity ∈ registry.identities ∨
      declaration.identity ∈ (declarations.take index).map (·.identity) →
      Blocks registry declarations index "ALREADY_REGISTERED"
        (.alreadyRegistered declaration.identity)

variable {registry next : Registry} {declaration : Declaration} {declarations : List Declaration}
  {index : Nat} {code : String} {fault : Fault}

/--
Without blank channels, a declaration is only ever refused for a missing binding or a taken
identity.
-/
theorem register_eq_error_iff (h : declaration.blankSides = []) :
    registry.register declaration = .error fault ↔
      declaration.incoming = none ∧ declaration.outgoing = none ∧
          fault = .notAMediator declaration.identity ∨
        (declaration.incoming.isSome ∨ declaration.outgoing.isSome) ∧
          declaration.identity ∈ registry.identities ∧
            fault = .alreadyRegistered declaration.identity := by
  rw [← Declaration.isBound_iff, ← and_assoc, ← Declaration.isBound_eq_false_iff]
  unfold register has
  cases declaration.isBound with
  | false => simp [eq_comm]
  | true =>
    by_cases htaken : declaration.identity ∈ registry.identities <;> simp [htaken, h, eq_comm]

theorem blocks_zero_iff (h : declaration.blankSides = []) :
    registry.Blocks (declaration :: declarations) 0 code fault ↔
      registry.register declaration = .error fault ∧ fault.code = code := by
  rw [register_eq_error_iff h]
  constructor
  · rintro (⟨⟨⟩, hincoming, houtgoing⟩ | ⟨⟨⟩, hbound, htaken | ⟨⟨⟩⟩⟩)
    · exact ⟨.inl ⟨hincoming, houtgoing, rfl⟩, rfl⟩
    · exact ⟨.inr ⟨hbound, htaken, rfl⟩, rfl⟩
  · rintro ⟨⟨hincoming, houtgoing, rfl⟩ | ⟨hbound, htaken, rfl⟩, rfl⟩
    · exact .unbound rfl hincoming houtgoing
    · exact .taken rfl hbound (.inl htaken)

theorem blocks_succ_iff (h : registry.register declaration = .ok next) :
    registry.Blocks (declaration :: declarations) (index + 1) code fault ↔
      next.Blocks declarations index code fault := by
  -- The identity of the declaration that is left out is taken in both cases.
  have htaken (identity : String) :
      identity ∈ registry.identities ∨
          identity ∈ ((declaration :: declarations).take (index + 1)).map (·.identity) ↔
        identity ∈ next.identities ∨ identity ∈ (declarations.take index).map (·.identity) := by
    rw [identities_of_register h]
    simp only [List.take_succ_cons, List.map_cons, List.mem_cons, List.mem_append,
      List.not_mem_nil, or_false, or_assoc]
  constructor
  · rintro (⟨hget, hincoming, houtgoing⟩ | ⟨hget, hbound, hidentity⟩)
    · exact .unbound hget hincoming houtgoing
    · exact .taken hget hbound ((htaken _).mp hidentity)
  · rintro (⟨hget, hincoming, houtgoing⟩ | ⟨hget, hbound, hidentity⟩)
    · exact .unbound hget hincoming houtgoing
    · exact .taken hget hbound ((htaken _).mpr hidentity)

theorem registerAll_of_not_blocks
    (haudible : ∀ declaration ∈ declarations, declaration.blankSides = [])
    (h : ∀ index code fault, ¬registry.Blocks declarations index code fault) :
    (registry.registerAll declarations).accepted = declarations ∧
      (registry.registerAll declarations).fault? = none := by
  induction declarations generalizing registry with
  | nil => exact ⟨rfl, rfl⟩
  | cons declaration declarations ih =>
    obtain ⟨hfirst, hrest⟩ := List.forall_mem_cons.mp haudible
    unfold registerAll
    split
    next next hnext =>
      have hnone := ih hrest fun index code fault hblocks =>
        h (index + 1) code fault ((blocks_succ_iff hnext).mpr hblocks)
      exact ⟨congrArg _ hnone.1, hnone.2⟩
    next fault herror =>
      exact absurd ((blocks_zero_iff hfirst).mpr ⟨herror, rfl⟩) (h 0 fault.code fault)

theorem registerAll_of_blocks
    (haudible : ∀ declaration ∈ declarations, declaration.blankSides = [])
    (h : registry.Blocks declarations index code fault)
    (hleast :
      ∀ earlier < index, ∀ code other, ¬registry.Blocks declarations earlier code other) :
    (registry.registerAll declarations).accepted = declarations.take index ∧
      (registry.registerAll declarations).fault? = some fault := by
  induction declarations generalizing registry index with
  | nil =>
    obtain ⟨⟨⟩⟩ | ⟨⟨⟩⟩ := h
  | cons declaration declarations ih =>
    obtain ⟨hfirst, hrest⟩ := List.forall_mem_cons.mp haudible
    unfold registerAll
    -- Behind the first declaration, the indices count from the registry that holds it.
    cases index with
    | zero =>
      rw [((blocks_zero_iff hfirst).mp h).1]
      exact ⟨rfl, rfl⟩
    | succ index =>
      split
      next next hnext =>
        have hstop := ih hrest ((blocks_succ_iff hnext).mp h) fun earlier hlt code other hblocks =>
          hleast (earlier + 1) (by omega) code other ((blocks_succ_iff hnext).mpr hblocks)
        exact ⟨congrArg _ hstop.1, hstop.2⟩
      next other herror =>
        have hblocks : registry.Blocks (declaration :: declarations) 0 other.code other :=
          (blocks_zero_iff hfirst).mpr ⟨herror, rfl⟩
        exact absurd hblocks (hleast 0 (by omega) other.code other)

theorem Blocks.code_eq (h : registry.Blocks declarations index code fault) : fault.code = code := by
  cases h <;> rfl

/--
The fault tells which entry is blocked.
-/
theorem Blocks.details_eq (h : registry.Blocks declarations index code fault) :
    ∃ declaration,
      declarations[index]? = some declaration ∧
        fault.details = some (.object [("identity", .string declaration.identity)]) := by
  cases h with
  | unbound hget _ _ => exact ⟨_, hget, rfl⟩
  | taken hget _ _ => exact ⟨_, hget, rfl⟩

/--
The record of a registration. It tells the channels of the sides that are bound.
-/
def RecordsRegistration (declaration : Declaration) (event : Log.Event) : Prop :=
  ∃ channels,
    event.toJson =
        .object
          (("level", .string "debug") :: ("msg", .string "Registered mediator") ::
            ("identity", .string declaration.identity) :: channels) ∧
      channels.lookup "incoming" =
        (declaration.incoming.map fun binding => Json.string binding.channel) ∧
      channels.lookup "outgoing" =
        declaration.outgoing.map fun binding => Json.string binding.channel

theorem recordsRegistration_registered (declaration : Declaration) :
    RecordsRegistration declaration (.registered declaration) := by
  refine ⟨_, rfl, ?_, ?_⟩
  · rcases declaration with ⟨_, _ | _, _ | _⟩ <;> rfl
  · rcases declaration with ⟨_, _ | _, _ | _⟩ <;> rfl

/--
What a caller can tell of a turn that has added some declarations and changed nothing else.
-/
structure Turn.Adds (registry : Registry) (added : List Declaration) (turn : Turn) : Prop where
  registry_eq :
    turn.registry = { registry with declarations := registry.declarations ++ added }
  get?_eq : ∀ identity, turn.registry.get? identity = registry.get? identity
  events_eq : turn.events = added.map .registered
  logged :
    ∀ event ∈ turn.events, event.level = .debug ∧ event.message = "Registered mediator"
  recorded : List.Forall₂ RecordsRegistration added turn.events

theorem step_importManifest_of_registerAll (registry : Registry) {input : Option Json}
    {added : List Declaration} {fault? : Option Fault}
    (hparse : Metadata.parseManifest input = .ok declarations)
    (haccepted : (registry.registerAll declarations).accepted = added)
    (hfault : (registry.registerAll declarations).fault? = fault?) :
    (registry.step (.importManifest input)).answer = fault?.elim (.ok .done) .error ∧
      (registry.step (.importManifest input)).Adds registry added := by
  have hregistry := registerAll_registry registry declarations
  rw [haccepted] at hregistry
  rw [step_importManifest_of_ok registry hparse, haccepted, hfault, hregistry]
  constructor
  · rfl
  · constructor
    · rfl
    · intro identity
      rfl
    · rfl
    · intro event hmem
      obtain ⟨declaration, _, rfl⟩ := List.mem_map.mp hmem
      exact ⟨rfl, rfl⟩
    · rw [List.forall₂_map_right_iff, List.forall₂_same]
      intro declaration _
      apply recordsRegistration_registered

/--
What the import of a manifest leads to. What is not a manifest is refused as a whole, and of a
manifest all entries before the first that is blocked are registered.
-/
structure Imports (registry : Registry) (input : Option Json) (turn : Turn) : Prop where
  refused :
    (∀ value ∈ input, ∀ declarations, ¬Metadata.DescribesManifest value declarations) →
      ∃ fault first rest,
        turn = { registry, answer := .error fault, events := [] } ∧
          fault.ListsIssues "manifest" (first :: rest)
  completed :
    ∀ value ∈ input, ∀ declarations, Metadata.DescribesManifest value declarations →
      (∀ index code fault, ¬registry.Blocks declarations index code fault) →
        turn.answer = .ok .done ∧ turn.Adds registry declarations
  stopped :
    ∀ value ∈ input, ∀ declarations, Metadata.DescribesManifest value declarations →
      ∀ index code fault, registry.Blocks declarations index code fault →
        (∀ earlier < index, ∀ code other, ¬registry.Blocks declarations earlier code other) →
          turn.answer = .error fault ∧ fault.code = code ∧
            (∃ declaration,
              declarations[index]? = some declaration ∧
                fault.details = some (.object [("identity", .string declaration.identity)])) ∧
              turn.Adds registry (declarations.take index)

theorem imports_step_importManifest (registry : Registry) (input : Option Json) :
    registry.Imports input (registry.step (.importManifest input)) := by
  have hparses := Metadata.parses_manifest
  constructor
  · intro hinvalid
    cases hparse : Metadata.parseManifest input with
    | ok declarations =>
      obtain ⟨value, hvalue, hdescribes⟩ := (hparses.ok_iff _ _).mp hparse
      exact absurd hdescribes (hinvalid value hvalue declarations)
    | error fault =>
      obtain ⟨first, rest, rfl⟩ := hparses.error _ _ hparse
      have hturn := step_importManifest_of_error registry hparse
      exact ⟨_, first, rest, hturn, Fault.listsIssues_invalid _ _⟩
  · intro value hvalue declarations hdescribes hnone
    have hparse := (hparses.ok_iff _ _).mpr ⟨value, hvalue, hdescribes⟩
    obtain ⟨haccepted, hfault⟩ := registerAll_of_not_blocks hdescribes.blankSides_eq_nil hnone
    exact step_importManifest_of_registerAll registry hparse haccepted hfault
  · intro value hvalue declarations hdescribes index code fault hblocks hleast
    have hparse := (hparses.ok_iff _ _).mpr ⟨value, hvalue, hdescribes⟩
    obtain ⟨haccepted, hfault⟩ :=
      registerAll_of_blocks hdescribes.blankSides_eq_nil hblocks hleast
    obtain ⟨hanswer, hadds⟩ :=
      step_importManifest_of_registerAll registry hparse haccepted hfault
    exact ⟨hanswer, hblocks.code_eq, hblocks.details_eq, hadds⟩

/--
Importing a manifest registers its entries in their order, up to the first that is blocked. No
registry refuses an entry of a manifest for what it is, and reading a manifest only ever fails for
what is wrong with it.
-/
theorem importManifest_adds_up_to_first_blocked (registry : Registry) (input : Option Json) :
    registry.Imports input (registry.step (.importManifest input)) ∧
      (∀ value ∈ input, ∀ declarations, Metadata.DescribesManifest value declarations →
        ∀ declaration ∈ declarations, ∀ (other : Registry) fault,
          other.register declaration = .error fault →
            (fault = .notAMediator declaration.identity ∨
                fault = .alreadyRegistered declaration.identity) ∧
              fault.code ≠ "INVALID_DESCRIPTOR") ∧
      ∀ fault,
        Metadata.parseManifest input = .error fault →
          ∃ first rest, fault.ListsIssues "manifest" (first :: rest) := by
  refine ⟨imports_step_importManifest registry input, ?_, ?_⟩
  · intro value _ declarations hdescribes declaration hmem other fault herror
    have haudible := hdescribes.blankSides_eq_nil declaration hmem
    rcases (register_eq_error_iff haudible).mp herror with ⟨_, _, rfl⟩ | ⟨_, _, rfl⟩
    · exact ⟨.inl rfl, by simp [Fault.code, Fault.Code.name]⟩
    · exact ⟨.inr rfl, by simp [Fault.code, Fault.Code.name]⟩
  · intro fault herror
    obtain ⟨first, rest, rfl⟩ := Metadata.parses_manifest.error input fault herror
    exact ⟨first, rest, Fault.listsIssues_invalid _ _⟩

end Registry

end Mediation

import Mediation.Proofs.Registry.Coherence
import Mediation.Proofs.Registry.Registration
import Mediation.Proofs.Registry.Trimming

/-!
This module contains the two checks of channel names, that of a registry and that of metadata. They
refuse the same names, and a name that they accept is kept by the registry as it is while metadata
leaves out the blanks around it. Nothing else depends on which of the two ways a declaration takes.
-/

namespace Mediation

namespace Metadata

theorem readBinding_object {fields : List (String × Json)} {binding : Binding}
    (hchannel : fields.lookup "channel" = some (.string binding.channel))
    (hprovider : fields.lookup "provider" = binding.provider.map .string) :
    readBinding (.object fields) =
      if Text.isBlankText binding.channel then
        .invalid { path := [.field "channel"], cause := .blankChannel } []
      else
        .valid binding.trimmed := by
  have hread : optional readText (binding.provider.map .string) = .valid binding.provider := by
    rw [optional_readText_eq_valid_iff]
  rw [readBinding, field, field, hchannel, hprovider, hread, required, readChannel_string]
  split <;> rfl

/--
A binding that is written down is parsed without the blanks around its channel, or refused if there
is nothing between them.
-/
theorem parseBinding_written (binding : Binding) :
    parseBinding (some binding.toJson) =
      if Text.isBlankText binding.channel then
        .error (.invalid "channel binding" [⟨"channel", "channel name must not be empty"⟩])
      else
        .ok binding.trimmed := by
  have hread :
      readBinding binding.toJson =
        if Text.isBlankText binding.channel then
          .invalid { path := [.field "channel"], cause := .blankChannel } []
        else
          .valid binding.trimmed := by
    rcases binding with ⟨channel, _ | provider⟩
    all_goals exact readBinding_object rfl rfl
  rw [parseBinding, required, hread]
  split <;> rfl

variable {binding parsed : Binding}

theorem parseBinding_written_eq_ok_iff :
    parseBinding (some binding.toJson) = .ok parsed ↔
      Text.isBlankText binding.channel = false ∧ parsed = binding.trimmed := by
  rw [parseBinding_written]
  split
  next hblank => simp [hblank]
  next hblank => simp [hblank, eq_comm]

theorem parseBinding_written_eq_error_iff {fault : Fault} :
    parseBinding (some binding.toJson) = .error fault ↔
      Text.isBlankText binding.channel = true ∧
        fault = .invalid "channel binding" [⟨"channel", "channel name must not be empty"⟩] := by
  rw [parseBinding_written]
  split
  next hblank => simp [hblank, eq_comm]
  next hblank => simp [hblank]

end Metadata

/--
What the two checks make of a binding. The one is made wherever a declaration with the binding is
registered under an identity that is free, and the other of the binding as it is written down.
-/
structure Binding.ChecksAgree (binding : Binding) : Prop where
  registry_rejects_iff :
    ∀ (registry : Registry) (declaration : Declaration) (side : Side),
      declaration.binding? side = some binding → declaration.identity ∉ registry.identities →
        ((∃ issues,
            registry.register declaration =
                .error (.invalid ("bindings of " ++ declaration.identity) issues) ∧
              ⟨side.name ++ ".channel", "channel name must not be empty"⟩ ∈ issues) ↔
          ∀ c ∈ binding.channel.toList, Text.isBlank c)
  metadata_rejects_iff :
    ∀ fault,
      Metadata.parseBinding (some binding.toJson) = .error fault ↔
        (∀ c ∈ binding.channel.toList, Text.isBlank c) ∧
          fault = .invalid "channel binding" [⟨"channel", "channel name must not be empty"⟩]
  metadata_accepts_iff :
    ∀ parsed,
      Metadata.parseBinding (some binding.toJson) = .ok parsed ↔
        parsed.channel ≠ "" ∧ Text.TrimsTo binding.channel parsed.channel ∧
          parsed.provider = binding.provider
  core_unique :
    ∀ core other, Text.TrimsTo binding.channel core → Text.TrimsTo binding.channel other →
      core = other

theorem Declaration.isBound_of_binding? {declaration : Declaration} {side : Side}
    {binding : Binding} (h : declaration.binding? side = some binding) :
    declaration.incoming.isSome ∨ declaration.outgoing.isSome := by
  cases side with
  | incoming => exact .inl (Option.isSome_of_eq_some h)
  | outgoing => exact .inr (Option.isSome_of_eq_some h)

theorem Binding.checksAgree (binding : Binding) : binding.ChecksAgree := by
  constructor
  · intro registry declaration side hbinding hfree
    have hbound := Declaration.isBound_of_binding? hbinding
    have hblankAt :
        declaration.IsBlankAt side ↔ ∀ c ∈ binding.channel.toList, Text.isBlank c := by
      unfold Declaration.IsBlankAt
      simp [hbinding]
    rw [← hblankAt, ← declaration.mem_map_blankIssue_iff side]
    constructor
    · rintro ⟨issues, herror, hmem⟩
      rw [Registry.register_eq_error_iff_refuses] at herror
      generalize hfault : Fault.invalid _ issues = fault at herror
      cases herror with
      | unbound => cases hfault
      | taken => cases hfault
      | blank _ _ _ =>
        cases hfault
        exact hmem
    · intro hmem
      have hblank := (declaration.mem_map_blankIssue_iff side).mp hmem
      exact ⟨_, Registry.register_eq_error_iff_refuses.mpr (.blank hbound hfree hblank), hmem⟩
  · intro fault
    rw [Metadata.parseBinding_written_eq_error_iff, Text.isBlankText_iff]
  · intro parsed
    rw [Metadata.parseBinding_written_eq_ok_iff]
    constructor
    · rintro ⟨haudible, rfl⟩
      have htrims := Text.trimsTo_trim binding.channel
      exact ⟨htrims.ne_empty_iff.mpr haudible, htrims, rfl⟩
    · rintro ⟨hne, htrims, hprovider⟩
      refine ⟨htrims.ne_empty_iff.mp hne, ?_⟩
      rcases parsed with ⟨channel, provider⟩
      cases htrims.eq_trim
      cases hprovider
      rfl
  · intro core other hcore hother
    rw [hcore.eq_trim, hother.eq_trim]

/--
A declaration whose bindings, on whichever sides there are any, are parsed to those of another one.
-/
structure Declaration.ParsesTo (declaration parsed : Declaration) : Prop where
  signature : parsed.signature = declaration.signature
  bindings :
    ∀ side,
      Option.Rel
        (fun binding other => Metadata.parseBinding (some binding.toJson) = .ok other)
        (declaration.binding? side) (parsed.binding? side)

theorem Metadata.rel_parseBinding_iff {binding? parsed? : Option Binding} :
    Option.Rel (fun binding parsed => parseBinding (some binding.toJson) = .ok parsed) binding?
        parsed? ↔
      (∀ binding, binding? = some binding → Text.isBlankText binding.channel = false) ∧
        parsed? = binding?.map Binding.trimmed := by
  cases binding? with
  | none => cases parsed? <;> simp
  | some binding => cases parsed? <;> simp [parseBinding_written_eq_ok_iff]

theorem Declaration.parsesTo_iff {declaration parsed : Declaration} :
    declaration.ParsesTo parsed ↔ declaration.blankSides = [] ∧ parsed = declaration.trimmed := by
  simp only [blankSides_eq_nil_iff, ← Text.isBlankText_eq_false_iff]
  constructor
  · intro h
    have hbindings (side : Side) := Metadata.rel_parseBinding_iff.mp (h.bindings side)
    refine ⟨fun side => (hbindings side).1, ?_⟩
    obtain ⟨_, hincoming⟩ := hbindings .incoming
    obtain ⟨_, houtgoing⟩ := hbindings .outgoing
    have hsignature := h.signature
    rcases parsed with ⟨signature, incoming, outgoing⟩
    cases hincoming
    cases houtgoing
    cases hsignature
    rfl
  · rintro ⟨haudible, rfl⟩
    constructor
    · rfl
    · intro side
      rw [Metadata.rel_parseBinding_iff, binding?_trimmed]
      exact ⟨haudible side, rfl⟩

structure Binding.SameUpToBlanks (binding other : Binding) : Prop where
  channel : Text.TrimsTo binding.channel other.channel
  provider : other.provider = binding.provider

structure Declaration.SameUpToBlanks (declaration other : Declaration) : Prop where
  signature : other.signature = declaration.signature
  bindings :
    ∀ side,
      Option.Rel Binding.SameUpToBlanks (declaration.binding? side) (other.binding? side)

structure Configuration.SameUpToBlanks (configuration other : Configuration) : Prop where
  identity : other.identity = configuration.identity
  shape : other.shape = configuration.shape
  toModes : other.toModes = configuration.toModes
  providers : ∀ side, other.provider? side = configuration.provider? side
  channels :
    ∀ side, Option.Rel Text.TrimsTo (configuration.channel? side) (other.channel? side)

/--
What a caller can tell of two registries that differ only in the blanks around the channels that
they hold.
-/
structure Registry.SameUpToBlanks (registry other : Registry) : Prop where
  declarations :
    List.Forall₂ Declaration.SameUpToBlanks registry.declarations other.declarations
  get? :
    ∀ identity,
      Option.Rel Configuration.SameUpToBlanks (registry.get? identity) (other.get? identity)

theorem rel_map_right {r : α → β → Prop} {f : α → β} (h : ∀ value, r value (f value))
    (value? : Option α) : Option.Rel r value? (value?.map f) := by
  cases value? with
  | none => exact .none
  | some value => exact .some (h value)

theorem Declaration.sameUpToBlanks_trimmed (declaration : Declaration) :
    declaration.SameUpToBlanks declaration.trimmed := by
  constructor
  · rfl
  · intro side
    rw [binding?_trimmed]
    apply rel_map_right
    intro binding
    exact ⟨Text.trimsTo_trim _, rfl⟩

theorem Configuration.sameUpToBlanks_trimmed (configuration : Configuration) :
    configuration.SameUpToBlanks configuration.trimmed := by
  constructor
  · rfl
  · rfl
  · rfl
  · intro side
    cases side <;> rfl
  · intro side
    cases side
    all_goals exact rel_map_right Text.trimsTo_trim _

namespace Registry

theorem sameUpToBlanks_trimmed (registry : Registry) :
    registry.SameUpToBlanks registry.trimmed := by
  constructor
  · unfold trimmed
    rw [List.forall₂_map_right_iff, List.forall₂_same]
    intro declaration _
    exact declaration.sameUpToBlanks_trimmed
  · intro identity
    rw [get?_trimmed]
    exact rel_map_right Configuration.sameUpToBlanks_trimmed _

/--
The same step, where a declaration that is registered has its bindings parsed first.
-/
inductive Step.ParsesTo : Step → Step → Prop where
  | register {declaration parsed : Declaration} :
    declaration.ParsesTo parsed → ParsesTo (.register declaration) (.register parsed)
  | other {step : Step} : (∀ declaration, step ≠ .register declaration) → ParsesTo step step

theorem map_trimmed_of_parseManifest {input : Option Json} {declarations : List Declaration}
    (h : Metadata.parseManifest input = .ok declarations) :
    declarations.map Declaration.trimmed = declarations := by
  have hdeclaration : ∀ declaration ∈ declarations, declaration.trimmed = declaration := by
    intro declaration hmem
    exact (Metadata.isExpressible_of_parseManifest h declaration hmem).trimmed_eq
  rw [List.map_congr_left hdeclaration, List.map_id']

theorem step_trimmed {registry : Registry} {step other : Step} (h : step.ParsesTo other) :
    (registry.trimmed.step other).registry = (registry.step step).registry.trimmed := by
  cases h with
  | @register declaration parsed hparses =>
    obtain ⟨_, rfl⟩ := Declaration.parsesTo_iff.mp hparses
    have hregister := registry.register_trimmed declaration
    cases hnext : registry.register declaration with
    | ok next =>
      rw [hnext] at hregister
      rw [step_register_of_ok hnext, step_register_of_ok hregister]
    | error fault =>
      rw [hnext] at hregister
      rw [step_register_of_error hnext, step_register_of_error hregister]
  | other hstep =>
    cases step with
    | register declaration => exact absurd rfl (hstep declaration)
    | importManifest input =>
      cases hparse : Metadata.parseManifest input with
      | ok declarations =>
        have hall := registry.registerAll_trimmed declarations
        rw [map_trimmed_of_parseManifest hparse] at hall
        rw [step_importManifest_of_ok _ hparse, step_importManifest_of_ok _ hparse]
        exact hall
      | error fault =>
        rw [step_importManifest_of_error _ hparse, step_importManifest_of_error _ hparse]
    | compute => exact registry.afterPass_trimmed
    | build =>
      rw [step_build_registry, step_build_registry]
      exact registry.afterPass_trimmed
    | has identity => rfl
    | get identity => rfl
    | list => rfl

theorem after_trimmed {registry : Registry} {steps others : List Step}
    (h : List.Forall₂ Step.ParsesTo steps others) :
    registry.trimmed.after others = (registry.after steps).trimmed := by
  induction h generalizing registry with
  | nil => rfl
  | cons hstep _ ih => rw [after_cons, after_cons, step_trimmed hstep, ih]

theorem register_eq_ok_iff_parsesTo {registry next : Registry} {declaration : Declaration} :
    registry.register declaration = .ok next ↔
      (declaration.incoming.isSome ∨ declaration.outgoing.isSome) ∧
        declaration.identity ∉ registry.identities ∧ (∃ parsed, declaration.ParsesTo parsed) ∧
          next = { registry with declarations := registry.declarations ++ [declaration] } := by
  simp only [register_eq_ok_iff, Declaration.parsesTo_iff, exists_and_left, exists_eq, and_true,
    Declaration.isBound_iff]

/--
The check of a registry and that of metadata refuse the same channels, those that are blank
throughout. A registry keeps the channels that it accepts as they are given, and whatever is done
with it, the same with parsed bindings leads to a registry that differs in the blanks around
channels only.
-/
theorem channel_checks_agree :
    (∀ c, Text.isBlank c ↔ c.toNat ∈ Text.blanks) ∧
    (∀ code ∈ [0x0085, 0x180E, 0x200B, 0x2060], code ∉ Text.blanks) ∧
    (∀ binding : Binding, binding.ChecksAgree) ∧
    (∀ (registry next : Registry) (declaration : Declaration),
      registry.register declaration = .ok next ↔
        (declaration.incoming.isSome ∨ declaration.outgoing.isSome) ∧
          declaration.identity ∉ registry.identities ∧ (∃ parsed, declaration.ParsesTo parsed) ∧
            next = { registry with declarations := registry.declarations ++ [declaration] }) ∧
    (∀ failFast steps others,
      List.Forall₂ Step.ParsesTo steps others →
        ((empty failFast).after steps).SameUpToBlanks ((empty failFast).after others)) := by
  refine ⟨Text.isBlank_iff_mem_blanks, by decide, Binding.checksAgree, ?_, ?_⟩
  · intro registry next declaration
    exact register_eq_ok_iff_parsesTo
  · intro failFast steps others h
    have htrimmed : (empty failFast).trimmed = empty failFast := by rfl
    rw [← htrimmed, after_trimmed h, htrimmed]
    apply sameUpToBlanks_trimmed

theorem channel_checks_agree_of_no_break_space :
    let given : Declaration :=
      {
        signature := { identity := "Prices#log", returns := .void, parameters := [.payload] }
        incoming := some { channel := "\u00A0quotes \n", provider := some "" }
        outgoing := none
      }
    let parsed : Declaration :=
      { given with incoming := some { channel := "quotes", provider := some "" } }
    given.ParsesTo parsed ∧
      ((empty true).after [.register given, .compute]).SameUpToBlanks
          ((empty true).after [.register parsed, .compute]) ∧
        ((empty true).after [.register given, .compute]).declarations = [given] ∧
          ∃ configuration,
            ((empty true).after [.register given, .compute]).get? "Prices#log" =
                some configuration ∧
              configuration.incomingChannel = some "\u00A0quotes \n" := by
  intro given parsed
  have hparses : given.ParsesTo parsed := by
    constructor
    · rfl
    · intro side
      cases side with
      | incoming => exact .some rfl
      | outgoing => exact .none
  obtain ⟨_, _, _, _, hsame⟩ := channel_checks_agree
  have hsteps :
      List.Forall₂ Step.ParsesTo [.register given, .compute] [.register parsed, .compute] :=
    .cons (.register hparses) (.cons (.other nofun) .nil)
  exact ⟨hparses, hsame true _ _ hsteps, rfl, _, rfl, rfl⟩

end Registry

end Mediation

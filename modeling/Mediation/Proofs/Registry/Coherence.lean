import Mediation.Proofs.Classification.Modes
import Mediation.Proofs.Registry.Growth

/-!
This module contains what the configurations that a registry hands out have in common: the shape,
the modes and the channels of a configuration fit together, and its channels are the ones that the
declaration is bound to.
-/

namespace Mediation

namespace Configuration

def channel? (configuration : Configuration) : Side → Option String
  | .incoming => configuration.incomingChannel
  | .outgoing => configuration.outgoingChannel

def provider? (configuration : Configuration) : Side → Option String
  | .incoming => configuration.incomingProvider
  | .outgoing => configuration.outgoingProvider

/--
What the wiring can rely on in the configuration of a declaration.
-/
structure Coherent (configuration : Configuration) (declaration : Declaration) : Prop where
  identity : configuration.identity = declaration.signature.identity
  production_none_iff : configuration.production = .none ↔ configuration.shape = .subscriber
  outgoing_none_iff : configuration.shape = .subscriber ↔ configuration.outgoingChannel = none
  consumption_none_iff : configuration.consumption = .none ↔ configuration.shape = .publisher
  incoming_none_iff : configuration.shape = .publisher ↔ configuration.incomingChannel = none
  channel_of_provider :
    ∀ side, (configuration.provider? side).isSome → (configuration.channel? side).isSome
  audible : ∀ side channel, configuration.channel? side = some channel → Text.trim channel ≠ ""
  streamTransformer :
    configuration.shape = .streamTransformer →
      configuration.production.IsStream ∧ configuration.consumption.IsStream
  processor :
    configuration.shape = .processor →
      (configuration.production.IsStream ↔ configuration.consumption.IsStream)
  usesBuilderTypes_iff :
    configuration.usesBuilderTypes ↔
      configuration.production.IsStream ∧
        declaration.signature.returns.kind ∈ [Kind.streamBuilder, .processorBuilder]
  channel_iff :
    ∀ side channel,
      configuration.channel? side = some channel ↔
        ∃ binding, declaration.binding? side = some binding ∧ binding.channel = channel
  /-- An empty provider is a provider like any other. -/
  provider_iff :
    ∀ side provider,
      configuration.provider? side = some provider ↔
        ∃ binding, declaration.binding? side = some binding ∧ binding.provider = some provider

end Configuration

namespace Declaration

variable {declaration : Declaration}

theorem channel?_configure (declaration : Declaration) (modes : Modes) (side : Side) :
    (declaration.configure modes).channel? side =
      (declaration.binding? side).map (·.channel) := by
  cases side <;> rfl

theorem provider?_configure (declaration : Declaration) (modes : Modes) (side : Side) :
    (declaration.configure modes).provider? side =
      (declaration.binding? side).bind (·.provider) := by
  cases side <;> rfl

theorem shape_eq_subscriber_iff (hbound : declaration.isBound) :
    declaration.shape = .subscriber ↔ declaration.outgoing = none := by
  rw [shape_eq_iff, HasShape, Option.isNone_iff_eq_none]
  rw [isBound_iff] at hbound
  constructor
  · intro h
    exact h.2
  · intro h
    simpa [h] using hbound

theorem shape_eq_publisher_iff : declaration.shape = .publisher ↔ declaration.incoming = none := by
  rw [shape_eq_iff, HasShape, Option.isNone_iff_eq_none]

theorem coherent_of_classify {configuration : Configuration}
    (h : declaration.classify = .ok configuration) (hbound : declaration.isBound)
    (haudible : declaration.blankSides = []) : configuration.Coherent declaration := by
  obtain ⟨modes, hmatches, rfl⟩ := classify_eq_ok_iff.mp h
  have hfits := hmatches.fits
  constructor
  · rfl
  · exact hfits.production_none_iff
  · change declaration.shape = .subscriber ↔ declaration.outgoing.map _ = none
    rw [shape_eq_subscriber_iff hbound, Option.map_eq_none_iff]
  · exact hfits.consumption_none_iff
  · change declaration.shape = .publisher ↔ declaration.incoming.map _ = none
    rw [shape_eq_publisher_iff, Option.map_eq_none_iff]
  · intro side
    rw [channel?_configure, provider?_configure]
    cases declaration.binding? side <;> simp
  · intro side channel hchannel
    rw [channel?_configure, Option.map_eq_some_iff] at hchannel
    obtain ⟨binding, hbinding, rfl⟩ := hchannel
    rw [blankSides_eq_nil_iff] at haudible
    have := haudible side binding hbinding
    rw [← Text.isBlankText_eq_false_iff] at this
    simpa [Text.isBlankText] using this
  · exact hfits.streamTransformer
  · exact hfits.processor
  · exact hfits.usesBuilderTypes_iff
  · intro side channel
    rw [channel?_configure, Option.map_eq_some_iff]
  · intro side provider
    rw [provider?_configure, Option.bind_eq_some_iff]

end Declaration

namespace Registry

/--
The configurations that an answer hands out.
-/
inductive Answer.Delivers : Answer → Configuration → Prop where
  | report {report : Report} {configuration : Configuration} :
    configuration ∈ report.configurations → Delivers (.report report) configuration
  | configurations {configurations : List Configuration} {configuration : Configuration} :
    configuration ∈ configurations → Delivers (.configurations configurations) configuration
  | configuration {configuration : Configuration} :
    Delivers (.configuration (some configuration)) configuration

variable {registry : Registry} {step : Step} {answer : Answer} {configuration : Configuration}

theorem exists_classify_of_mem_report (h : configuration ∈ registry.report.configurations) :
    ∃ declaration ∈ registry.declarations, declaration.classify = .ok configuration := by
  rw [report_eq_ofDeclarations] at h
  exact Report.exists_classify_of_mem h

theorem step_register_answer_eq_done {declaration : Declaration}
    (h : (registry.step (.register declaration)).answer = .ok answer) : answer = .done := by
  cases hregister : registry.register declaration with
  | ok next =>
    rw [step_register_of_ok hregister] at h
    cases h
    rfl
  | error fault =>
    rw [step_register_of_error hregister] at h
    cases h

theorem step_importManifest_answer_eq_done {input : Option Json}
    (h : (registry.step (.importManifest input)).answer = .ok answer) : answer = .done := by
  cases hparse : Metadata.parseManifest input with
  | ok declarations =>
    rw [step_importManifest_of_ok registry hparse] at h
    dsimp only at h
    generalize (registry.registerAll declarations).fault? = fault? at h
    cases fault? with
    | none =>
      cases h
      rfl
    | some fault => cases h
  | error fault =>
    rw [step_importManifest_of_error registry hparse] at h
    cases h

/--
Only the classification of a declaration that is registered is ever handed out.
-/
theorem WellFormed.exists_classify_of_delivers (h : registry.WellFormed)
    (hanswer : (registry.step step).answer = .ok answer)
    (hdelivers : answer.Delivers configuration) :
    ∃ declaration ∈ registry.declarations, declaration.classify = .ok configuration := by
  cases step with
  | register declaration =>
    rw [step_register_answer_eq_done hanswer] at hdelivers
    cases hdelivers
  | importManifest input =>
    rw [step_importManifest_answer_eq_done hanswer] at hdelivers
    cases hdelivers
  | compute =>
    cases hanswer
    cases hdelivers with
    | report hmem => exact exists_classify_of_mem_report hmem
  | build =>
    rw [(step_build_answer_eq_ok_iff.mp hanswer).2] at hdelivers
    cases hdelivers with
    | configurations hmem => exact exists_classify_of_mem_report hmem
  | has identity =>
    cases hanswer
    cases hdelivers
  | get identity =>
    injection hanswer with hanswer
    subst hanswer
    generalize hget : registry.get? identity = found at hdelivers
    cases hdelivers
    obtain ⟨declaration, hmem, _, hclassify⟩ := h.exists_of_get? hget
    exact ⟨declaration, hmem, hclassify⟩
  | list =>
    cases hanswer
    cases hdelivers

/--
Whatever a run on an empty registry hands out as a configuration is the coherent configuration of a
declaration that is registered.
-/
theorem coherent_of_delivers {failFast : Bool} {steps : List Step}
    (hanswer : (((empty failFast).after steps).step step).answer = .ok answer)
    (hdelivers : answer.Delivers configuration) :
    ∃ declaration ∈ ((empty failFast).after steps).declarations,
      configuration.Coherent declaration := by
  have h := (wellFormed_empty failFast).after steps
  obtain ⟨declaration, hmem, hclassify⟩ := h.exists_classify_of_delivers hanswer hdelivers
  refine ⟨declaration, hmem, ?_⟩
  exact declaration.coherent_of_classify hclassify (h.bound _ hmem) (h.audible _ hmem)

theorem coherent_of_delivers_empty_provider :
    let declaration : Declaration :=
      {
        signature :=
          {
            identity := "Prices#enrich"
            returns := ⟨.streamBuilder, "PublisherBuilder", [⟨.envelope, "Message", []⟩]⟩
            parameters := [.payload "Tick"]
          }
        incoming := some { channel := "ticks", provider := none }
        outgoing := some { channel := " prices ", provider := some "" }
      }
    ∃ configuration,
      (((empty true).after [.register declaration, .compute]).step (.get "Prices#enrich")).answer =
          .ok (.configuration (some configuration)) ∧
        configuration.outgoingProvider = some "" ∧
          ∃ registered ∈ ((empty true).after [.register declaration, .compute]).declarations,
            configuration.Coherent registered := by
  intro declaration
  have hanswer :
      (((empty true).after [.register declaration, .compute]).step (.get "Prices#enrich")).answer =
        .ok
          (.configuration
            (some (declaration.configure ⟨.stream .message, .stream .payload, true⟩))) := by
    rfl
  exact ⟨_, hanswer, rfl, coherent_of_delivers hanswer .configuration⟩

end Registry

end Mediation

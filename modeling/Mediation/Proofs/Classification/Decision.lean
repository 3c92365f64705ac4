import Mediation.Proofs.Classification.Requirement

/-!
This module contains the decision that the classification of a declaration amounts to: a declaration
is configured exactly as the table of its shape says, and rejected for the first requirement of its
shape that it violates.
-/

namespace Mediation

def Signature.TransformsStream (signature : Signature) : Prop :=
  signature.returns.kind ∈ Kind.sources ∧
    ∃ first rest, signature.parameters = first :: rest ∧ first.kind ∈ Kind.sources

theorem Signature.mapsStreams_iff (signature : Signature) :
    signature.mapsStreams ↔ signature.TransformsStream := by
  unfold mapsStreams TransformsStream
  cases signature.parameters with
  | nil => simp
  | cons first rest => simp [Kind.isStream_iff]

inductive Shape.NamedAs : Shape → String → Prop where
  | publisher : NamedAs .publisher "PUBLISHER"
  | subscriber : NamedAs .subscriber "SUBSCRIBER"
  | processor : NamedAs .processor "PROCESSOR"
  | streamTransformer : NamedAs .streamTransformer "STREAM_TRANSFORMER"

inductive Flavour.NamedAs : Flavour → String → Prop where
  | payload : NamedAs .payload "PAYLOAD"
  | message : NamedAs .message "MESSAGE"

inductive Production.NamedAs : Production → String → Prop where
  | none : NamedAs .none "NONE"
  | individual {flavour : Flavour} {text : String} :
    flavour.NamedAs text → NamedAs (.individual flavour) ("INDIVIDUAL_" ++ text)
  | completionStage {flavour : Flavour} {text : String} :
    flavour.NamedAs text → NamedAs (.completionStage flavour) ("COMPLETION_STAGE_OF_" ++ text)
  | stream {flavour : Flavour} {text : String} :
    flavour.NamedAs text → NamedAs (.stream flavour) ("STREAM_OF_" ++ text)

inductive Consumption.NamedAs : Consumption → String → Prop where
  | none : NamedAs .none "NONE"
  | item {flavour : Flavour} {text : String} : flavour.NamedAs text → NamedAs (.item flavour) text
  | stream {flavour : Flavour} {text : String} :
    flavour.NamedAs text → NamedAs (.stream flavour) ("STREAM_OF_" ++ text)

theorem Shape.namedAs_name (shape : Shape) : shape.NamedAs shape.name := by
  cases shape <;> constructor

theorem Production.namedAs_name (production : Production) :
    production.NamedAs production.name := by
  cases production with
  | none => exact .none
  | individual flavour =>
    cases flavour with
    | payload => exact .individual .payload
    | message => exact .individual .message
  | completionStage flavour =>
    cases flavour with
    | payload => exact .completionStage .payload
    | message => exact .completionStage .message
  | stream flavour =>
    cases flavour with
    | payload => exact .stream .payload
    | message => exact .stream .message

theorem Consumption.namedAs_name (consumption : Consumption) :
    consumption.NamedAs consumption.name := by
  cases consumption with
  | none => exact .none
  | item flavour =>
    cases flavour with
    | payload => exact .item .payload
    | message => exact .item .message
  | stream flavour =>
    cases flavour with
    | payload => exact .stream .payload
    | message => exact .stream .message

/--
The sides on which a rejected declaration of a shape is said to be bound.
-/
inductive Shape.ReportedOn : Shape → Context → Prop where
  | publisher : ReportedOn .publisher .outgoing
  | subscriber : ReportedOn .subscriber .incoming
  | processor : ReportedOn .processor .incomingOutgoing
  | streamTransformer : ReportedOn .streamTransformer .incomingOutgoing

theorem Shape.reportedOn_iff {shape : Shape} {context : Context} :
    shape.ReportedOn context ↔ context = shape.context := by
  constructor
  · intro h
    cases h <;> rfl
  · rintro rfl
    cases shape <;> constructor

/--
The sides on which a method counts as bound, by their name and as a message words them.
-/
inductive Context.ShownAs : Context → String → String → Prop where
  | incoming : ShownAs .incoming "incoming" "an incoming channel"
  | outgoing : ShownAs .outgoing "outgoing" "an outgoing channel"
  | incomingOutgoing :
    ShownAs .incomingOutgoing "incoming-outgoing" "incoming and outgoing channels"

theorem Context.shownAs_name_label (context : Context) :
    context.ShownAs context.name context.label := by
  cases context <;> constructor

/--
What is said about a signature that violates a requirement of a shape.
-/
structure Rejection.Reports (shape : Shape) (mismatch : Mismatch) (signature : Signature)
    (rejection : Rejection) : Prop where
  wording : mismatch.ReportedAs rejection.code.name rejection.reason
  context : shape.ReportedOn rejection.context
  identity : rejection.identity = signature.identity
  declaration : rejection.declaration = signature.format
  shown :
    ∃ name label,
      rejection.context.ShownAs name label ∧
        rejection.message =
          "Invalid mediator bound to " ++ label ++ ": " ++ signature.format ++ " - " ++
            rejection.reason ∧
        rejection.details =
          .object
            [("context", .string name), ("identity", .string signature.identity),
              ("declaration", .string signature.format), ("reason", .string rejection.reason)]

theorem Rejection.reports_iff {shape : Shape} {mismatch : Mismatch} {signature : Signature}
    {rejection : Rejection} :
    rejection.Reports shape mismatch signature ↔
      rejection = mismatch.reject shape.context signature := by
  constructor
  · rintro ⟨hwording, hcontext, hidentity, hdeclaration, _⟩
    obtain ⟨hcode, hreason⟩ := Mismatch.reportedAs_iff.mp hwording
    rw [Code.name_inj] at hcode
    rw [Shape.reportedOn_iff] at hcontext
    cases rejection
    simp_all [Mismatch.reject, ofSignature]
  · rintro rfl
    constructor
    · exact Mismatch.reportedAs_iff.mpr ⟨rfl, rfl⟩
    · exact Shape.reportedOn_iff.mpr rfl
    · rfl
    · rfl
    · exact ⟨_, _, Context.shownAs_name_label _, rfl, rfl⟩

namespace Declaration

/--
Whether the bindings of a declaration, and with both bindings its types, make it one of a shape.
-/
def HasShape (declaration : Declaration) : Shape → Prop
  | .subscriber => declaration.incoming.isSome ∧ declaration.outgoing.isNone
  | .publisher => declaration.incoming.isNone
  | .streamTransformer =>
    declaration.incoming.isSome ∧ declaration.outgoing.isSome ∧
      declaration.signature.TransformsStream
  | .processor =>
    declaration.incoming.isSome ∧ declaration.outgoing.isSome ∧
      ¬declaration.signature.TransformsStream

variable {declaration : Declaration} {shape : Shape}

theorem hasShape_shape (declaration : Declaration) : declaration.HasShape declaration.shape := by
  rcases declaration with ⟨signature, _ | incoming, _ | outgoing⟩
  · simp [Declaration.shape, HasShape]
  · simp [Declaration.shape, HasShape]
  · simp [Declaration.shape, HasShape]
  · unfold Declaration.shape
    by_cases h : signature.mapsStreams
    · simpa [h, HasShape] using (Signature.mapsStreams_iff _).mp h
    · simpa [h, HasShape] using mt (Signature.mapsStreams_iff _).mpr h

theorem HasShape.unique {first second : Shape} (hfirst : declaration.HasShape first)
    (hsecond : declaration.HasShape second) : first = second := by
  rcases declaration with ⟨signature, _ | incoming, _ | outgoing⟩
  all_goals cases first <;> cases second <;> simp_all [HasShape]

theorem shape_eq_iff : declaration.shape = shape ↔ declaration.HasShape shape := by
  constructor
  · intro h
    rw [← h]
    apply hasShape_shape
  · intro h
    exact (hasShape_shape declaration).unique h

theorem classify_eq_ok_iff {configuration : Configuration} :
    declaration.classify = .ok configuration ↔
      ∃ modes,
        declaration.signature.Matches declaration.shape modes ∧
          configuration = declaration.configure modes := by
  unfold classify
  constructor
  · intro h
    split at h
    next modes hmodes =>
      cases h
      exact ⟨modes, Signature.modes_eq_ok_iff.mp hmodes, rfl⟩
    next => cases h
  · rintro ⟨modes, hmatches, rfl⟩
    rw [Signature.modes_eq_ok_iff.mpr hmatches]

theorem identity_eq_of_classify {configuration : Configuration}
    (h : declaration.classify = .ok configuration) :
    configuration.identity = declaration.identity := by
  obtain ⟨modes, _, rfl⟩ := classify_eq_ok_iff.mp h
  rfl

theorem classify_eq_error_iff {rejection : Rejection} :
    declaration.classify = .error rejection ↔
      ∃ mismatch,
        declaration.signature.FirstViolated
            (declaration.signature.returns.kind.requirements declaration.shape) mismatch ∧
          rejection = mismatch.reject declaration.shape.context declaration.signature := by
  unfold classify
  constructor
  · intro h
    split at h
    next => cases h
    next mismatch hmismatch =>
      cases h
      exact ⟨mismatch, Signature.modes_eq_error_iff.mp hmismatch, rfl⟩
  · rintro ⟨mismatch, hfirst, rfl⟩
    rw [Signature.modes_eq_error_iff.mpr hfirst]

/--
A declaration is configured exactly if the table of its shape lists its signature, and then with the
modes of the table. It is rejected exactly for the first requirement of its shape that its signature
violates, with the code and the reason of that requirement.
-/
theorem classify_follows_table (declaration : Declaration) :
    (∀ configuration,
      declaration.classify = .ok configuration ↔
        ∃ shape modes,
          declaration.HasShape shape ∧ declaration.signature.Matches shape modes ∧
            configuration =
              {
                toModes := modes
                identity := declaration.signature.identity
                shape
                incomingChannel := declaration.incoming.map (·.channel)
                outgoingChannel := declaration.outgoing.map (·.channel)
                incomingProvider := declaration.incoming.bind (·.provider)
                outgoingProvider := declaration.outgoing.bind (·.provider)
              } ∧
            shape.NamedAs configuration.shape.name ∧
            modes.production.NamedAs configuration.production.name ∧
            modes.consumption.NamedAs configuration.consumption.name) ∧
    (∀ rejection,
      declaration.classify = .error rejection ↔
        ∃ shape mismatch,
          declaration.HasShape shape ∧
            declaration.signature.FirstViolated
              (declaration.signature.returns.kind.requirements shape) mismatch ∧
            rejection.Reports shape mismatch declaration.signature) := by
  have hshape := hasShape_shape declaration
  constructor
  · intro configuration
    rw [classify_eq_ok_iff]
    constructor
    · rintro ⟨modes, hmatches, rfl⟩
      exact
        ⟨declaration.shape, modes, hshape, hmatches, rfl, Shape.namedAs_name _,
          Production.namedAs_name _, Consumption.namedAs_name _⟩
    · rintro ⟨shape, modes, hhas, hmatches, rfl, _⟩
      have heq := shape_eq_iff.mpr hhas
      subst heq
      exact ⟨modes, hmatches, rfl⟩
  · intro rejection
    rw [classify_eq_error_iff]
    constructor
    · rintro ⟨mismatch, hfirst, rfl⟩
      exact ⟨declaration.shape, mismatch, hshape, hfirst, Rejection.reports_iff.mpr rfl⟩
    · rintro ⟨shape, mismatch, hhas, hfirst, hreports⟩
      have heq := shape_eq_iff.mpr hhas
      subst heq
      exact ⟨mismatch, hfirst, Rejection.reports_iff.mp hreports⟩

end Declaration

end Mediation

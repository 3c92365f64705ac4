import Mediation.Proofs.Metadata.RoundTrip
import Mediation.Proofs.Metadata.Schema

/-!
This module contains what becomes of data that is validated once more. Validation leaves out what no
schema names, trims the names of channels and fills in parameters, and once is enough for all of it.
-/

namespace Mediation

namespace Json

/--
The fields of a record that are present.
-/
def present (fields : List (String × Option Json)) : List (String × Json) :=
  fields.filterMap fun (key, value?) => value?.map (key, ·)

theorem record_eq (fields : List (String × Option Json)) :
    record fields = .object (present fields) := by
  rfl

theorem lookup_present {fields : List (String × Option Json)} (h : (fields.map Prod.fst).Nodup)
    (key : String) : (present fields).lookup key = (fields.lookup key).join := by
  induction fields with
  | nil => rfl
  | cons field fields ih =>
    obtain ⟨name, value?⟩ := field
    obtain ⟨hfresh, hnodup⟩ := List.nodup_cons.mp h
    have hrest := ih hnodup
    by_cases hname : key = name
    · subst hname
      cases value? with
      | none =>
        -- A field that is left out is not given further behind either.
        have hnone : fields.lookup key = none := by
          rw [List.lookup_eq_none_iff]
          intro field hmem
          have hkey : field.1 ∈ fields.map Prod.fst := List.mem_map_of_mem hmem
          exact bne_iff_ne.mpr fun heq => hfresh (heq ▸ hkey)
        rw [hnone] at hrest
        rw [List.lookup_cons_self]
        exact hrest
      | some value => simp [present]
    · have hkey : (key == name) = false := beq_false_of_ne hname
      rw [List.lookup_cons, hkey, ← hrest]
      cases value? with
      | none => rfl
      | some value => simp [present, List.lookup_cons, hkey]

end Json

namespace Metadata

mutual

/--
Data in which objects have only fields that their schemas name, each of them at most once and at
whatever depth.
-/
inductive Schema.Confines : Schema → Json → Prop where
  | text {schema : Schema} {text : String} :
    schema.expected.tag = .string → Confines schema (.string text)
  | array {schema : Schema} {values : List Json} :
    (∀ value ∈ values, Confines schema value) → Confines (.array schema) (.array values)
  | object {schema : Schema} {fields : List (String × Json)} :
    schema.expected = .object → ConfinesFields schema.fields fields →
      Confines schema (.object fields)

/--
Fields that are among those that a schema names, in the order of the schema.
-/
inductive Schema.ConfinesFields :
    List (String × Presence × Schema) → List (String × Json) → Prop where
  | nil : ConfinesFields [] []
  | absent {key : String} {presence : Presence} {schema : Schema}
    {named : List (String × Presence × Schema)} {fields : List (String × Json)} :
    ConfinesFields named fields → ConfinesFields ((key, presence, schema) :: named) fields
  | null {key : String} {schema : Schema} {named : List (String × Presence × Schema)}
    {fields : List (String × Json)} :
    ConfinesFields named fields →
      ConfinesFields ((key, .nullable, schema) :: named) ((key, .null) :: fields)
  | given {key : String} {presence : Presence} {schema : Schema} {value : Json}
    {named : List (String × Presence × Schema)} {fields : List (String × Json)} :
    Confines schema value → ConfinesFields named fields →
      ConfinesFields ((key, presence, schema) :: named) ((key, value) :: fields)

end

/--
Data that stays what it is: written within its schema, and read again as it was.
-/
structure Normal (schema : Schema) (read : Json → Checked α) (write : α → Json) (data : α) :
    Prop where
  read_write : read (write data) = .valid data
  confined : schema.Confines (write data)

/--
All data that is read from a value stays what it is.
-/
def Normalizes (schema : Schema) (read : Json → Checked α) (write : α → Json) (value : Json) :
    Prop :=
  ∀ data, read value = .valid data → Normal schema read write data

def writeEach (write : α → Json) (elements : List α) : Json :=
  .array (elements.map write)

section Readers

variable {schema : Schema} {read : Json → Checked α} {write : α → Json}

theorem readEachFrom_eq_valid_iff {position : Nat} {values : List Json} {elements : List α} :
    readEachFrom position read values = .valid elements ↔
      List.Forall₂ (fun value element => read value = .valid element) values elements := by
  have hmap :
      List.map id <$> readEachFrom position read values = .valid elements ↔
        List.Forall₂ (fun value element => read value = .valid element) values elements := by
    apply map_readEachFrom_eq_valid_iff
    simp
  simpa using hmap

theorem Normal.each {elements : List α}
    (h : ∀ element ∈ elements, Normal schema read write element) :
    Normal (.array schema) (readEach read) (writeEach write) elements := by
  constructor
  · unfold writeEach readEach
    dsimp only
    rw [readEachFrom_eq_valid_iff, List.forall₂_map_left_iff, List.forall₂_same]
    intro element hmem
    exact (h element hmem).read_write
  · apply Schema.Confines.array
    rw [List.forall_mem_map]
    intro element hmem
    exact (h element hmem).confined

theorem normalizes_each (value : Json)
    (h : ∀ values, value = .array values → ∀ inner ∈ values, Normalizes schema read write inner) :
    Normalizes (.array schema) (readEach read) (writeEach write) value := by
  intro elements hread
  cases value with
  | array values =>
    rw [readEach, readEachFrom_eq_valid_iff] at hread
    apply Normal.each
    intro element hmem
    obtain ⟨inner, hinner, helement⟩ := exists_describes_of_mem hread element hmem
    exact h values rfl inner hinner element helement
  | _ => simp [readEach] at hread

theorem Normal.read_optional {data? : Option α}
    (h : ∀ data, data? = some data → Normal schema read write data) :
    Metadata.optional read (data?.map write) = .valid data? := by
  cases data? with
  | none => rfl
  | some data => exact optional_eq_valid_some_iff.mpr ⟨_, rfl, (h data rfl).read_write⟩

theorem Normalizes.normal_of_optional {input : Option Json} {data? : Option α}
    (h : ∀ value, input = some value → Normalizes schema read write value)
    (hread : Metadata.optional read input = .valid data?) :
    ∀ data, data? = some data → Normal schema read write data := by
  rintro data rfl
  obtain ⟨value, rfl, hvalue⟩ := optional_eq_valid_some_iff.mp hread
  exact h value rfl data hvalue

end Readers

theorem normal_kind (kind : Kind) : Normal .kind readKind (fun kind => .string kind.name) kind := by
  constructor
  · rw [readKind_eq_valid_iff]
  · exact .text rfl

theorem normal_text (text : String) : Normal .text readText .string text := by
  constructor
  · rw [readText_eq_valid_iff]
  · exact .text rfl

theorem normalizes_nonemptyText (value : Json) :
    Normalizes .nonemptyText readNonemptyText .string value := by
  intro text hread
  obtain ⟨_, hne⟩ := readNonemptyText_eq_valid_iff.mp hread
  constructor
  · exact readNonemptyText_eq_valid_iff.mpr ⟨rfl, hne⟩
  · exact .text rfl

theorem Schema.ConfinesFields.optional {schema : Schema} {write : α → Json} {key : String}
    {presence : Presence} {data? : Option α} {named : List (String × Presence × Schema)}
    {fields : List (String × Option Json)}
    (h : ∀ data, data? = some data → schema.Confines (write data))
    (hrest : ConfinesFields named (Json.present fields)) :
    ConfinesFields ((key, presence, schema) :: named)
      (Json.present ((key, data?.map write) :: fields)) := by
  cases data? with
  | none => exact .absent hrest
  | some data => exact .given (h data rfl) hrest

namespace WrittenType

theorem eachToJson_eq_map (types : List WrittenType) : eachToJson types = types.map toJson := by
  induction types with
  | nil => rfl
  | cons type types ih => simp [eachToJson, ih]

theorem toJson_eq_record (type : WrittenType) :
    type.toJson =
      .record
        [("kind", some (.string type.kind.name)), ("name", type.name.map .string),
          ("typeArguments", type.arguments.map (writeEach toJson))] := by
  obtain ⟨kind, name, arguments⟩ := type
  rw [toJson]
  cases arguments with
  | none => rfl
  | some types =>
    rw [argumentsToJson, eachToJson_eq_map]
    rfl

theorem normal {type : WrittenType}
    (hname :
      ∀ name, type.name = some name → Normal .nonemptyText readNonemptyText .string name)
    (harguments :
      ∀ types, type.arguments = some types →
        Normal (.array .type) (readEach read) (writeEach toJson) types) :
    Normal .type read toJson type := by
  obtain ⟨kind, name, arguments⟩ := type
  constructor
  · rw [toJson_eq_record, Json.record_eq, read, readArguments_eq, Checked.map₃_eq_valid_iff]
    simp (disch := simp) only [field_eq_valid_iff, Json.lookup_present]
    refine ⟨kind, name, arguments, ?_, ?_, ?_, rfl⟩
    · exact (normal_kind kind).read_write
    · exact Normal.read_optional hname
    · exact Normal.read_optional harguments
  · rw [toJson_eq_record]
    apply Schema.Confines.object rfl
    apply Schema.ConfinesFields.given (normal_kind kind).confined
    apply Schema.ConfinesFields.optional fun name heq => (hname name heq).confined
    apply Schema.ConfinesFields.optional fun types heq => (harguments types heq).confined
    exact .nil

theorem normalizes (value : Json) : Normalizes .type read toJson value := by
  induction value using induction_on_arguments with
  | h value ih =>
    intro type hread
    cases value with
    | object fields =>
      rw [read, readArguments_eq, Checked.map₃_eq_valid_iff] at hread
      simp only [field_eq_valid_iff] at hread
      obtain ⟨kind, name, arguments, _, hname, harguments, rfl⟩ := hread
      apply normal
      · apply Normalizes.normal_of_optional _ hname
        intro inner _
        apply normalizes_nonemptyText
      · apply Normalizes.normal_of_optional _ harguments
        intro inner hlookup
        apply normalizes_each
        rintro values rfl
        exact ih fields values rfl hlookup
    | _ => simp [read] at hread

end WrittenType

namespace WrittenSignature

theorem normal {signature : WrittenSignature}
    (hidentity : Normal .nonemptyText readNonemptyText .string signature.identity)
    (hreturns : Normal .type WrittenType.read WrittenType.toJson signature.returns)
    (hparameters :
      Normal (.array .type) (readEach WrittenType.read) (writeEach WrittenType.toJson)
        signature.parameters) :
    Normal .signature read toJson signature := by
  constructor
  · rw [toJson, read, Checked.map₃_eq_valid_iff]
    simp only [field_eq_valid_iff, Checked.map_eq_valid_iff]
    refine ⟨signature.identity, signature.returns, signature.parameters, ?_, ?_, ?_, rfl⟩
    · exact hidentity.read_write
    · exact hreturns.read_write
    · have hwritten := optional_eq_valid_some_iff.mpr ⟨_, rfl, hparameters.read_write⟩
      exact ⟨some signature.parameters, hwritten, rfl⟩
  · apply Schema.Confines.object rfl
    apply Schema.ConfinesFields.given hidentity.confined
    apply Schema.ConfinesFields.given hreturns.confined
    apply Schema.ConfinesFields.given hparameters.confined
    exact .nil

theorem normalizes (value : Json) : Normalizes .signature read toJson value := by
  intro signature hread
  cases value with
  | object fields =>
    rw [read, Checked.map₃_eq_valid_iff] at hread
    simp only [field_eq_valid_iff, required_eq_valid_iff, Checked.map_eq_valid_iff] at hread
    obtain ⟨identity, returns, _, ⟨_, _, hidentity⟩, ⟨_, _, hreturns⟩, ⟨written, hwritten, rfl⟩,
      rfl⟩ := hread
    apply normal
    · exact normalizes_nonemptyText _ identity hidentity
    · exact WrittenType.normalizes _ returns hreturns
    · cases written with
      | none => exact Normal.each (List.forall_mem_nil _)
      | some types =>
        obtain ⟨value, _, htypes⟩ := optional_eq_valid_some_iff.mp hwritten
        exact normalizes_each value (fun _ _ inner _ => WrittenType.normalizes inner) types htypes
  | _ => simp [read] at hread

end WrittenSignature

theorem normalizes_binding (value : Json) :
    Normalizes .binding readBinding Binding.toJson value := by
  intro binding hread
  rw [describesBinding_iff] at hread
  obtain ⟨hne, htrim⟩ := hread.channel_trimmed
  constructor
  · exact (describesBinding_iff _ _).mpr (describesBinding_toJson hne htrim)
  · rw [Binding.toJson, Json.record_eq]
    apply Schema.Confines.object rfl
    apply Schema.ConfinesFields.given (.text rfl)
    apply Schema.ConfinesFields.optional fun provider _ => (normal_text provider).confined
    exact .nil

namespace WrittenBinding

/--
A side on which the binding, if there is one, stays what it is.
-/
def IsNormal (side : WrittenBinding) : Prop :=
  ∀ binding, side = .given binding → Normal .binding readBinding Binding.toJson binding

theorem isNormal_of_read {input : Option Json} {side : WrittenBinding}
    (hread : read input = .valid side) : side.IsNormal := by
  rintro binding rfl
  cases input with
  | none => cases hread
  | some value =>
    by_cases hnull : value = .null
    · subst hnull
      cases hread
    · rw [read_some_of_ne_null hnull, Checked.map_eq_valid_iff] at hread
      obtain ⟨_, hbinding, heq⟩ := hread
      cases heq
      exact normalizes_binding value binding hbinding

theorem IsNormal.read_toJson? {side : WrittenBinding} (h : side.IsNormal) :
    read side.toJson? = .valid side := by
  cases side with
  | absent => rfl
  | null => rfl
  | given binding =>
    rw [toJson?, read_some_of_ne_null (by nofun), Checked.map_eq_valid_iff]
    exact ⟨binding, (h binding rfl).read_write, rfl⟩

theorem IsNormal.confinesFields {side : WrittenBinding} {key : String}
    {named : List (String × Presence × Schema)} {fields : List (String × Option Json)}
    (h : side.IsNormal) (hrest : Schema.ConfinesFields named (Json.present fields)) :
    Schema.ConfinesFields ((key, .nullable, .binding) :: named)
      (Json.present ((key, side.toJson?) :: fields)) := by
  cases side with
  | absent => exact .absent hrest
  | null => exact .null hrest
  | given binding => exact .given (h binding rfl).confined hrest

end WrittenBinding

namespace Entry

theorem normal {entry : Entry}
    (hsignature :
      Normal .signature WrittenSignature.read WrittenSignature.toJson entry.signature)
    (hincoming : entry.incoming.IsNormal) (houtgoing : entry.outgoing.IsNormal) :
    Normal .entry read toJson entry := by
  constructor
  · rw [toJson, Json.record_eq, read, Checked.map₃_eq_valid_iff]
    simp (disch := simp) only [field_eq_valid_iff, Json.lookup_present]
    refine ⟨entry.signature, entry.incoming, entry.outgoing, ?_, ?_, ?_, rfl⟩
    · exact hsignature.read_write
    · exact hincoming.read_toJson?
    · exact houtgoing.read_toJson?
  · rw [toJson, Json.record_eq]
    apply Schema.Confines.object rfl
    apply Schema.ConfinesFields.given hsignature.confined
    apply hincoming.confinesFields
    apply houtgoing.confinesFields
    exact .nil

theorem normalizes (value : Json) : Normalizes .entry read toJson value := by
  intro entry hread
  cases value with
  | object fields =>
    rw [read, Checked.map₃_eq_valid_iff] at hread
    simp only [field_eq_valid_iff, required_eq_valid_iff] at hread
    obtain ⟨signature, incoming, outgoing, ⟨_, _, hsignature⟩, hincoming, houtgoing, rfl⟩ := hread
    apply normal
    · exact WrittenSignature.normalizes _ signature hsignature
    · exact WrittenBinding.isNormal_of_read hincoming
    · exact WrittenBinding.isNormal_of_read houtgoing
  | _ => simp [read] at hread

end Entry

theorem Manifest.normalizes (value : Json) : Normalizes .manifest read toJson value := by
  apply normalizes_each
  intro _ _ inner _
  apply Entry.normalizes

/--
The data that validation answers with, written the way it was read.
-/
def validate (read : Json → Checked α) (write : α → Json) (input : Option Json) : Checked Json :=
  write <$> required read input

/--
What validation answers with is confined to the schema, and validation answers with it once more.
-/
structure Settles (schema : Schema) (read : Json → Checked α) (write : α → Json) : Prop where
  fixed :
    ∀ input data,
      validate read write input = .valid data → validate read write (some data) = .valid data
  confined : ∀ input data, validate read write input = .valid data → schema.Confines data

/--
A parser does not tell data from the value that it was validated from, and accepts both.
-/
def ParsesAlike (parse : Option Json → Except Fault β) (read : Json → Checked α)
    (write : α → Json) : Prop :=
  ∀ input data,
    validate read write input = .valid data →
      ∃ result, parse input = .ok result ∧ parse (some data) = .ok result

section Validated

variable {schema : Schema} {read : Json → Checked α} {write : α → Json}

theorem validate_eq_valid_iff {input : Option Json} {data : Json} :
    validate read write input = .valid data ↔
      ∃ value written, input = some value ∧ read value = .valid written ∧ write written = data := by
  unfold validate
  simp only [Checked.map_eq_valid_iff, required_eq_valid_iff]
  constructor
  · rintro ⟨written, ⟨value, rfl, hread⟩, rfl⟩
    exact ⟨value, written, rfl, hread, rfl⟩
  · rintro ⟨value, written, rfl, hread, rfl⟩
    exact ⟨written, ⟨value, rfl, hread⟩, rfl⟩

theorem settles_of_normalizes (h : ∀ value, Normalizes schema read write value) :
    Settles schema read write := by
  constructor
  · intro input data hvalid
    obtain ⟨value, written, rfl, hread, rfl⟩ := validate_eq_valid_iff.mp hvalid
    exact validate_eq_valid_iff.mpr ⟨_, written, rfl, (h value written hread).read_write, rfl⟩
  · intro input data hvalid
    obtain ⟨value, written, rfl, hread, rfl⟩ := validate_eq_valid_iff.mp hvalid
    exact (h value written hread).confined

theorem parsesAlike_of_normalizes {parse : Option Json → Except Fault β} {f : α → β}
    {subject : String} (h : ∀ value, Normalizes schema read write value)
    (hparse : ∀ input, parse input = f <$> (required read input).orFault subject) :
    ParsesAlike parse read write := by
  intro input data hvalid
  obtain ⟨value, written, rfl, hread, rfl⟩ := validate_eq_valid_iff.mp hvalid
  have hwritten := (h value written hread).read_write
  refine ⟨f written, ?_, ?_⟩
  · rw [hparse, required, hread]
    rfl
  · rw [hparse, required, hwritten]
    rfl

end Validated

theorem parseType_toJson {input : Option Json} {type : Descriptor}
    (h : parseType input = .ok type) : parseType (some type.toJson) = .ok type := by
  rw [parses_type.ok_iff] at h ⊢
  obtain ⟨value, _, hdescribes⟩ := h
  exact ⟨_, rfl, describesType_toJson (hasNames_of_describesType value type hdescribes)⟩

theorem parseBinding_toJson {input : Option Json} {binding : Binding}
    (h : parseBinding input = .ok binding) : parseBinding (some binding.toJson) = .ok binding := by
  rw [parses_binding.ok_iff] at h ⊢
  obtain ⟨value, _, hdescribes⟩ := h
  obtain ⟨hne, htrim⟩ := hdescribes.channel_trimmed
  exact ⟨_, rfl, describesBinding_toJson hne htrim⟩

/--
Validation is done once and for all. Its data is what it makes of that data, every parser reads the
same from it, and what a parser returns for a type or a binding is what it parses that to.
-/
theorem validation_is_idempotent :
    (Settles .type WrittenType.read WrittenType.toJson ∧
      Settles .signature WrittenSignature.read WrittenSignature.toJson ∧
        Settles .binding readBinding Binding.toJson ∧ Settles .entry Entry.read Entry.toJson ∧
          Settles .manifest Manifest.read Manifest.toJson) ∧
    (ParsesAlike parseType WrittenType.read WrittenType.toJson ∧
      ParsesAlike parseSignature WrittenSignature.read WrittenSignature.toJson ∧
        ParsesAlike parseBinding readBinding Binding.toJson ∧
          ParsesAlike parseManifest Manifest.read Manifest.toJson) ∧
    (∀ input type, parseType input = .ok type → parseType (some type.toJson) = .ok type) ∧
    (∀ input binding,
      parseBinding input = .ok binding → parseBinding (some binding.toJson) = .ok binding) := by
  refine ⟨⟨?_, ?_, ?_, ?_, ?_⟩, ⟨?_, ?_, ?_, ?_⟩, ?_, ?_⟩
  · exact settles_of_normalizes WrittenType.normalizes
  · exact settles_of_normalizes WrittenSignature.normalizes
  · exact settles_of_normalizes normalizes_binding
  · exact settles_of_normalizes Entry.normalizes
  · exact settles_of_normalizes Manifest.normalizes
  · apply parsesAlike_of_normalizes WrittenType.normalizes
    intro input
    exact construct_eq_map WrittenType.build_eq_toDescriptor _
  · apply parsesAlike_of_normalizes WrittenSignature.normalizes
    intro input
    exact construct_eq_map WrittenSignature.build_eq_toSignature _
  · apply parsesAlike_of_normalizes (f := id) normalizes_binding
    intro input
    rw [id_map]
    rfl
  · apply parsesAlike_of_normalizes Manifest.normalizes
    intro input
    exact construct_eq_map Manifest.build_eq_toDeclarations _
  · intro input type
    apply parseType_toJson
  · intro input binding
    apply parseBinding_toJson

theorem validation_is_idempotent_of_clutter :
    let type : Json :=
      .object
        [("note", .null), ("kind", .string "async"),
          ("typeArguments", .array [.object [("depth", .number 1 0), ("kind", .string "void")]])]
    let binding : Json :=
      .object [("topic", .bool true), ("channel", .string " quotes\n"), ("provider", .string "")]
    let manifest : Json :=
      .array
        [.object
          [("outgoing", binding), ("incoming", .null),
            ("signature", .object [("identity", .string "Prices#all"), ("returns", type)])]]
    let data : Json :=
      .array
        [.object
          [("signature",
              .object
                [("identity", .string "Prices#all"),
                  ("returns",
                    .object
                      [("kind", .string "async"),
                        ("typeArguments", .array [.object [("kind", .string "void")]])]),
                  ("parameters", .array [])]),
            ("incoming", .null),
            ("outgoing", .object [("channel", .string "quotes"), ("provider", .string "")])]]
    validate Manifest.read Manifest.toJson (some manifest) = .valid data ∧
      validate Manifest.read Manifest.toJson (some data) = .valid data ∧
        Schema.manifest.Confines data ∧
          (∃ declarations,
            parseManifest (some manifest) = .ok declarations ∧
              parseManifest (some data) = .ok declarations) ∧
            (∃ parsed,
              parseType (some type) = .ok parsed ∧ parseType (some parsed.toJson) = .ok parsed) ∧
              ∃ parsed,
                parseBinding (some binding) = .ok parsed ∧
                  parseBinding (some parsed.toJson) = .ok parsed := by
  intro type binding manifest data
  obtain ⟨⟨_, _, _, _, hsettles⟩, ⟨_, _, _, halike⟩, htype, hbinding⟩ := validation_is_idempotent
  have hdata : validate Manifest.read Manifest.toJson (some manifest) = .valid data := rfl
  refine ⟨hdata, hsettles.fixed _ data hdata, hsettles.confined _ data hdata, ?_, ?_, ?_⟩
  · exact halike _ data hdata
  · exact ⟨_, rfl, htype (some type) _ rfl⟩
  · exact ⟨_, rfl, hbinding (some binding) _ rfl⟩

end Metadata

end Mediation

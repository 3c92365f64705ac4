import Mediation.Proofs.Metadata.Normalization

/-!
This module contains what the answers to metadata depend on. Fields that no schema names are ignored
wherever they are written, and so is the order in which fields are written.
-/

namespace Mediation

namespace Json

/--
Equality of values up to the order in which the fields of objects are written, at whatever depth.
-/
inductive SameUpToOrder : Json → Json → Prop where
  | null : SameUpToOrder .null .null
  | bool (value : Bool) : SameUpToOrder (.bool value) (.bool value)
  | number (mantissa : Int) (exponent : Nat) :
    SameUpToOrder (.number mantissa exponent) (.number mantissa exponent)
  | string (text : String) : SameUpToOrder (.string text) (.string text)
  | array {values others : List Json} :
    List.Forall₂ SameUpToOrder values others → SameUpToOrder (.array values) (.array others)
  | object {fields others : List (String × Json)} :
    (∀ key, Option.Rel SameUpToOrder (fields.lookup key) (others.lookup key)) →
      SameUpToOrder (.object fields) (.object others)

theorem lookup_eq_of_perm {fields others : List (String × Json)} (hperm : fields.Perm others)
    (hnodup : (fields.map Prod.fst).Nodup) (key : String) :
    fields.lookup key = others.lookup key := by
  induction hperm with
  | nil => rfl
  | cons field _ ih =>
    rw [List.lookup_cons, List.lookup_cons, ih hnodup.of_cons]
  | swap first second fields =>
    obtain ⟨firstKey, _⟩ := first
    obtain ⟨secondKey, _⟩ := second
    have hne : firstKey ≠ secondKey := by
      rintro rfl
      simp at hnodup
    rw [List.lookup_cons, List.lookup_cons, List.lookup_cons, List.lookup_cons]
    by_cases hfirst : key = firstKey
    · simp [hfirst, beq_false_of_ne hne]
    · simp [beq_false_of_ne hfirst]
  | trans hperm _ ih ih' =>
    rw [ih hnodup, ih' ((hperm.map Prod.fst).nodup_iff.mp hnodup)]

theorem rel_lookup_of_forall₂ {fields others : List (String × Json)}
    (h :
      List.Forall₂ (fun field other => field.1 = other.1 ∧ field.2.SameUpToOrder other.2) fields
        others)
    (key : String) : Option.Rel SameUpToOrder (fields.lookup key) (others.lookup key) := by
  induction h with
  | nil => exact .none
  | @cons field other _ _ hfield _ ih =>
    obtain ⟨name, value⟩ := field
    obtain ⟨_, otherValue⟩ := other
    obtain ⟨rfl, hvalue⟩ := hfield
    rw [List.lookup_cons, List.lookup_cons]
    cases key == name with
    | true => exact .some hvalue
    | false => exact ih

/--
An object whose keys are all different may be written in any order.
-/
theorem SameUpToOrder.of_perm {fields reordered others : List (String × Json)}
    (hnodup : (fields.map Prod.fst).Nodup) (hperm : fields.Perm reordered)
    (hvalues :
      List.Forall₂ (fun field other => field.1 = other.1 ∧ field.2.SameUpToOrder other.2)
        reordered others) :
    SameUpToOrder (.object fields) (.object others) := by
  apply SameUpToOrder.object
  intro key
  rw [lookup_eq_of_perm hperm hnodup]
  exact rel_lookup_of_forall₂ hvalues key

theorem SameUpToOrder.tag_eq {value other : Json} (h : value.SameUpToOrder other) :
    value.tag = other.tag := by
  cases h <;> rfl

end Json

namespace Metadata

namespace Schema

mutual

/--
Leave out the fields that the schema of their object does not name, at whatever depth. What a schema
does not expect is left as it is.
-/
def prune : Schema → Json → Json
  | .array element, .array values => .array (pruneEach element values)
  | schema, .object fields =>
    if schema.expected = .object then .object (pruneFields schema.fields fields)
    else .object fields
  | _, value => value

def pruneEach : Schema → List Json → List Json
  | _, [] => []
  | element, value :: values => element.prune value :: pruneEach element values

def pruneFields : List (String × Presence × Schema) → List (String × Json) → List (String × Json)
  | _, [] => []
  | named, (key, value) :: fields =>
    match named.lookup key with
    | some (_, target) => (key, target.prune value) :: pruneFields named fields
    | none => pruneFields named fields

end

theorem pruneEach_eq_map (element : Schema) (values : List Json) :
    element.pruneEach values = values.map element.prune := by
  induction values with
  | nil => rfl
  | cons value values ih => simp [pruneEach, ih]

theorem tag_prune (schema : Schema) (value : Json) : (schema.prune value).tag = value.tag := by
  cases value with
  | object fields =>
    rw [prune]
    split <;> rfl
  | _ => cases schema <;> rfl

/--
Inside a text there is nothing to leave out.
-/
theorem prune_of_expected_tag {schema : Schema} (h : schema.expected.tag = .string)
    (value : Json) : schema.prune value = value := by
  cases schema with
  | kind | text | nonemptyText | channel => cases value <;> rfl
  | _ => cases h

theorem lookup_pruneFields {named : List (String × Presence × Schema)} {key : String}
    {presence : Presence} {target : Schema} (h : named.lookup key = some (presence, target))
    (fields : List (String × Json)) :
    (pruneFields named fields).lookup key = (fields.lookup key).map target.prune := by
  induction fields with
  | nil => rfl
  | cons field fields ih =>
    obtain ⟨name, value⟩ := field
    by_cases hname : key = name
    · subst hname
      simp [pruneFields, h]
    · have hkey : (key == name) = false := beq_false_of_ne hname
      rw [pruneFields, List.lookup_cons, hkey, ← ih]
      split
      next => rw [List.lookup_cons, hkey]
      next => rfl

/--
Two values that a schema does not tell apart: they are equal up to the order of their fields as soon
as the fields that it does not name are left out.
-/
def Alike (schema : Schema) (value other : Json) : Prop :=
  (schema.prune value).SameUpToOrder (schema.prune other)

variable {schema element : Schema} {value other : Json}

theorem Alike.tag_eq (h : schema.Alike value other) : value.tag = other.tag := by
  have htag := Json.SameUpToOrder.tag_eq h
  rw [tag_prune, tag_prune] at htag
  exact htag

theorem alike_of_expected_tag (h : schema.expected.tag = .string) :
    schema.Alike value other ↔ value.SameUpToOrder other := by
  unfold Alike
  rw [prune_of_expected_tag h, prune_of_expected_tag h]

theorem Alike.forall₂ {values others : List Json}
    (h : (array element).Alike (.array values) (.array others)) :
    List.Forall₂ element.Alike values others := by
  unfold Alike at h
  rw [prune, prune, pruneEach_eq_map, pruneEach_eq_map] at h
  cases h with
  | array hforall => rwa [List.forall₂_map_left_iff, List.forall₂_map_right_iff] at hforall

theorem rel_of_rel_map {r : Json → Json → Prop} {f : Json → Json} {input other : Option Json}
    (h : Option.Rel r (input.map f) (other.map f)) :
    Option.Rel (fun value other => r (f value) (f other)) input other := by
  cases input with
  | none =>
    cases other with
    | none => exact .none
    | some other => simp at h
  | some value =>
    cases other with
    | none => simp at h
    | some other => simpa using h

theorem Alike.rel_lookup {fields others : List (String × Json)}
    (h : schema.Alike (.object fields) (.object others)) (key : String) {presence : Presence}
    {target : Schema} (hkey : schema.fields.lookup key = some (presence, target)) :
    Option.Rel target.Alike (fields.lookup key) (others.lookup key) := by
  have hexpected : schema.expected = .object := by
    cases schema with
    | type | signature | binding | entry => rfl
    | _ => cases hkey
  unfold Alike at h
  rw [prune, prune, if_pos hexpected, if_pos hexpected] at h
  cases h with
  | object hlookup =>
    have hrel := hlookup key
    rw [lookup_pruneFields hkey, lookup_pruneFields hkey] at hrel
    have hvalues := rel_of_rel_map hrel
    exact hvalues

end Schema

/--
A reader that answers to a value what it answers to all values that its schema does not tell apart
from it.
-/
def Overlooks (schema : Schema) (read : Json → Checked α) (value : Json) : Prop :=
  ∀ other, schema.Alike value other → read value = read other

section Readers

variable {schema : Schema} {read : Json → Checked α} {value : Json}

theorem overlooks_text (hexpected : schema.expected.tag = .string)
    (h : ∀ value other, Json.SameUpToOrder value other → read value = read other) (value : Json) :
    Overlooks schema read value := by
  intro other halike
  rw [Schema.alike_of_expected_tag hexpected] at halike
  exact h value other halike

theorem overlooks_readKind (value : Json) : Overlooks .kind readKind value := by
  apply overlooks_text rfl
  intro value other h
  cases h <;> rfl

theorem overlooks_readText (value : Json) : Overlooks .text readText value := by
  apply overlooks_text rfl
  intro value other h
  cases h <;> rfl

theorem overlooks_readNonemptyText (value : Json) :
    Overlooks .nonemptyText readNonemptyText value := by
  apply overlooks_text rfl
  intro value other h
  cases h <;> rfl

theorem overlooks_readChannel (value : Json) : Overlooks .channel readChannel value := by
  apply overlooks_text rfl
  intro value other h
  cases h <;> rfl

/--
A reader of objects overlooks what the readers of the fields overlook, since it refuses everything
else for its JSON type.
-/
theorem overlooks_object
    (hmismatch :
      ∀ value, value.tag ≠ .object → read value = .violating (.mismatch .object value.tag))
    (h :
      ∀ fields others,
        value = .object fields → schema.Alike (.object fields) (.object others) →
          read (.object fields) = read (.object others)) :
    Overlooks schema read value := by
  intro other halike
  have htag := halike.tag_eq
  by_cases hobject : value.tag = .object
  · cases value with
    | object fields =>
      cases other with
      | object others => exact h fields others rfl halike
      | _ => cases htag
    | _ => cases hobject
  · rw [hmismatch value hobject, hmismatch other (htag ▸ hobject), htag]

theorem readEachFrom_congr {values others : List Json} {element : Schema}
    (hforall : List.Forall₂ element.Alike values others)
    (h : ∀ inner ∈ values, Overlooks element read inner) (position : Nat) :
    readEachFrom position read values = readEachFrom position read others := by
  induction hforall generalizing position with
  | nil => rfl
  | cons halike _ ih =>
    obtain ⟨hinner, hrest⟩ := List.forall_mem_cons.mp h
    rw [readEachFrom, readEachFrom, hinner _ halike, ih hrest]

theorem overlooks_each {element : Schema} (value : Json)
    (h : ∀ values, value = .array values → ∀ inner ∈ values, Overlooks element read inner) :
    Overlooks (.array element) (readEach read) value := by
  intro other halike
  have htag := halike.tag_eq
  cases value with
  | array values =>
    cases other with
    | array others => exact readEachFrom_congr halike.forall₂ (h values rfl) 0
    | _ => cases htag
  | _ =>
    cases other with
    | array others => cases htag
    | _ => cases htag <;> rfl

theorem field_congr {fields others : List (String × Json)} {key : String}
    {read : Option Json → Checked α} (h : read (fields.lookup key) = read (others.lookup key)) :
    field fields key read = field others key read := by
  unfold field
  rw [h]

variable {fields others : List (String × Json)} {presence : Presence} {target : Schema}

theorem Schema.Alike.field_required (halike : schema.Alike (.object fields) (.object others))
    (key : String) (hkey : schema.fields.lookup key = some (presence, target))
    (h : ∀ value, fields.lookup key = some value → Overlooks target read value) :
    field fields key (required read) = field others key (required read) := by
  apply field_congr
  have hrel := halike.rel_lookup key hkey
  generalize fields.lookup key = input at hrel h
  generalize others.lookup key = other at hrel
  cases hrel with
  | none => rfl
  | some halike => exact h _ rfl _ halike

theorem Schema.Alike.field_optional (halike : schema.Alike (.object fields) (.object others))
    (key : String) (hkey : schema.fields.lookup key = some (presence, target))
    (h : ∀ value, fields.lookup key = some value → Overlooks target read value) :
    field fields key (optional read) = field others key (optional read) := by
  apply field_congr
  have hrel := halike.rel_lookup key hkey
  generalize fields.lookup key = input at hrel h
  generalize others.lookup key = other at hrel
  cases hrel with
  | none => rfl
  | some halike =>
    unfold optional
    dsimp only
    rw [h _ rfl _ halike]

end Readers

theorem overlooks_readType (value : Json) : Overlooks .type WrittenType.read value := by
  induction value using WrittenType.induction_on_arguments with
  | h value ih =>
    apply overlooks_object
    · intro value hmismatch
      cases value with
      | object => exact absurd rfl hmismatch
      | _ => rfl
    · rintro fields others rfl halike
      have hkind := halike.field_required "kind" rfl fun inner _ => overlooks_readKind inner
      have hname := halike.field_optional "name" rfl fun inner _ => overlooks_readNonemptyText inner
      have harguments :=
        halike.field_optional "typeArguments" rfl fun inner hlookup =>
          overlooks_each inner fun values heq => ih fields values rfl (heq ▸ hlookup)
      rw [WrittenType.read, WrittenType.read, WrittenType.readArguments_eq,
        WrittenType.readArguments_eq, hkind, hname, harguments]

theorem overlooks_readSignature (value : Json) :
    Overlooks .signature WrittenSignature.read value := by
  apply overlooks_object
  · intro value hmismatch
    cases value with
    | object => exact absurd rfl hmismatch
    | _ => rfl
  · intro fields others _ halike
    have hidentity :=
      halike.field_required "identity" rfl fun inner _ => overlooks_readNonemptyText inner
    have hreturns := halike.field_required "returns" rfl fun inner _ => overlooks_readType inner
    have hparameters :=
      halike.field_optional "parameters" rfl fun inner _ =>
        overlooks_each inner fun _ _ type _ => overlooks_readType type
    rw [WrittenSignature.read, WrittenSignature.read, hidentity, hreturns, hparameters]

theorem overlooks_readBinding (value : Json) : Overlooks .binding readBinding value := by
  apply overlooks_object
  · intro value hmismatch
    cases value with
    | object => exact absurd rfl hmismatch
    | _ => rfl
  · intro fields others _ halike
    have hchannel := halike.field_required "channel" rfl fun inner _ => overlooks_readChannel inner
    have hprovider := halike.field_optional "provider" rfl fun inner _ => overlooks_readText inner
    rw [readBinding, readBinding, hchannel, hprovider]

theorem readSide_congr {input other : Option Json}
    (halike : Option.Rel Schema.binding.Alike input other) :
    WrittenBinding.read input = WrittenBinding.read other := by
  cases halike with
  | none => rfl
  | @some value other halike =>
    have htag := halike.tag_eq
    by_cases hnull : value = .null
    · subst hnull
      cases other with
      | null => rfl
      | _ => cases htag
    · have hother : other ≠ .null := by
        rintro rfl
        cases value with
        | null => exact hnull rfl
        | _ => cases htag
      rw [WrittenBinding.read_some_of_ne_null hnull, WrittenBinding.read_some_of_ne_null hother,
        overlooks_readBinding value other halike]

theorem overlooks_readEntry (value : Json) : Overlooks .entry Entry.read value := by
  apply overlooks_object
  · intro value hmismatch
    cases value with
    | object => exact absurd rfl hmismatch
    | _ => rfl
  · intro fields others _ halike
    have hsignature :=
      halike.field_required "signature" rfl fun inner _ => overlooks_readSignature inner
    have hincoming := field_congr (readSide_congr (halike.rel_lookup "incoming" rfl))
    have houtgoing := field_congr (readSide_congr (halike.rel_lookup "outgoing" rfl))
    rw [Entry.read, Entry.read, hsignature, hincoming, houtgoing]

theorem overlooks_readManifest (value : Json) : Overlooks .manifest Manifest.read value := by
  apply overlooks_each
  intro _ _ inner _
  exact overlooks_readEntry inner

/--
An answer that depends on nothing but what a schema names, and not on the order in which it is
written either.
-/
def Schema.Determines (schema : Schema) (answer : Json → α) : Prop :=
  ∀ value other, schema.Alike value other → answer value = answer other

theorem determines_of_overlooks {schema : Schema} {read : Json → Checked α}
    (h : ∀ value, Overlooks schema read value) (f : Checked α → β) :
    schema.Determines fun value => f (required read (some value)) := by
  intro value other halike
  exact congrArg f (h value other halike)

/--
Fields that no schema names and the order in which fields are written make no difference, at
whatever depth: neither to what is validated and parsed nor to which violations are reported and in
which order.
-/
theorem unnamed_fields_and_order_are_immaterial :
    (Schema.type.Determines fun value =>
        validate WrittenType.read WrittenType.toJson (some value)) ∧
    (Schema.signature.Determines fun value =>
        validate WrittenSignature.read WrittenSignature.toJson (some value)) ∧
    (Schema.binding.Determines fun value => validate readBinding Binding.toJson (some value)) ∧
    (Schema.entry.Determines fun value => validate Entry.read Entry.toJson (some value)) ∧
    (Schema.manifest.Determines fun value =>
        validate Manifest.read Manifest.toJson (some value)) ∧
    (Schema.type.Determines fun value => parseType (some value)) ∧
    (Schema.signature.Determines fun value => parseSignature (some value)) ∧
    (Schema.binding.Determines fun value => parseBinding (some value)) ∧
    (Schema.manifest.Determines fun value => parseManifest (some value)) := by
  refine ⟨?_, ?_, ?_, ?_, ?_, ?_, ?_, ?_, ?_⟩
  · exact determines_of_overlooks overlooks_readType _
  · exact determines_of_overlooks overlooks_readSignature _
  · exact determines_of_overlooks overlooks_readBinding _
  · exact determines_of_overlooks overlooks_readEntry _
  · exact determines_of_overlooks overlooks_readManifest _
  · exact determines_of_overlooks overlooks_readType fun checked =>
      construct WrittenType.build (checked.orFault "type descriptor")
  · exact determines_of_overlooks overlooks_readSignature fun checked =>
      construct WrittenSignature.build (checked.orFault "signature")
  · exact determines_of_overlooks overlooks_readBinding (Checked.orFault "channel binding")
  · exact determines_of_overlooks overlooks_readManifest fun checked =>
      construct Manifest.build (checked.orFault "manifest")

theorem unnamed_fields_and_order_are_immaterial_of_clutter :
    let tidy : Json :=
      .object
        [("identity", .string "Prices#all"),
          ("returns",
            .object
              [("kind", .string "async"),
                ("typeArguments",
                  .array [.object [("kind", .string "void"), ("name", .string "")]])])]
    let cluttered : Json :=
      .object
        [("returns",
            .object
              [("typeArguments",
                  .array
                    [.object
                      [("name", .string ""), ("depth", .number 1 0), ("kind", .string "void")]]),
                ("kind", .string "async")]),
          ("note", .null), ("identity", .string "Prices#all")]
    Schema.signature.Alike tidy cluttered ∧
      parseSignature (some tidy) = parseSignature (some cluttered) ∧
        parseSignature (some tidy) =
          .error
            (.invalid "signature"
              [⟨"returns.typeArguments.0.name", "String must contain at least 1 character(s)"⟩]) := by
  intro tidy cluttered
  have halike : Schema.signature.Alike tidy cluttered := by
    apply Json.SameUpToOrder.of_perm
    · decide
    · exact .swap _ _ []
    · refine .cons ⟨rfl, ?_⟩ (.cons ⟨rfl, .string _⟩ .nil)
      apply Json.SameUpToOrder.of_perm
      · decide
      · exact .swap _ _ []
      · refine .cons ⟨rfl, .array (.cons ?_ .nil)⟩ (.cons ⟨rfl, .string _⟩ .nil)
        apply Json.SameUpToOrder.of_perm
        · decide
        · exact .swap _ _ []
        · exact .cons ⟨rfl, .string _⟩ (.cons ⟨rfl, .string _⟩ .nil)
  obtain ⟨_, _, _, _, _, _, hparse, _⟩ := unnamed_fields_and_order_are_immaterial
  exact ⟨halike, hparse tidy cluttered halike, rfl⟩

end Metadata

end Mediation

import Mathlib.Data.List.Forall2
import Mediation.Metadata.Manifest
import Mediation.Proofs.Text.Trim

/-!
This module contains the grammar of metadata, as a relation between a JSON value and what it
describes, and that the parsers accept exactly what the grammar derives. Only the fields that the
grammar names are looked up, so that all others are ignored.
-/

namespace Mediation.Metadata

/--
The display name of a type of a given kind, by what is written in its place.
-/
inductive DescribesName (kind : Kind) : Option Json → String → Prop where
  | default : DescribesName kind none kind.defaultName
  | written {text : String} : text ≠ "" → DescribesName kind (some (.string text)) text

/--
An array that describes its elements one by one. Without an array there are none.
-/
inductive DescribesEach (describes : Json → α → Prop) : Option Json → List α → Prop where
  | absent : DescribesEach describes none []
  | array {values : List Json} {elements : List α} :
    List.Forall₂ describes values elements →
      DescribesEach describes (some (.array values)) elements

inductive DescribesType : Json → Descriptor → Prop where
  | object {fields : List (String × Json)} {kind : Kind} {name : String}
    {arguments : List Descriptor} :
    fields.lookup "kind" = some (.string kind.name) →
    DescribesName kind (fields.lookup "name") name →
    DescribesEach DescribesType (fields.lookup "typeArguments") arguments →
      DescribesType (.object fields) { kind, name, arguments }

inductive DescribesSignature : Json → Signature → Prop where
  | object {fields : List (String × Json)} {identity : String} {value : Json}
    {returns : Descriptor} {parameters : List Descriptor} :
    fields.lookup "identity" = some (.string identity) → identity ≠ "" →
    fields.lookup "returns" = some value → DescribesType value returns →
    DescribesEach DescribesType (fields.lookup "parameters") parameters →
      DescribesSignature (.object fields) { identity, returns, parameters }

inductive DescribesBinding : Json → Binding → Prop where
  | object {fields : List (String × Json)} {text channel : String} {provider : Option String} :
    fields.lookup "channel" = some (.string text) →
    (∃ c ∈ text.toList, Text.isBlank c = false) → Text.TrimsTo text channel →
    fields.lookup "provider" = provider.map .string →
      DescribesBinding (.object fields) { channel, provider }

/--
One side of an entry. A side that is left out is not bound, and neither is one that is null.
-/
inductive DescribesSide : Option Json → Option Binding → Prop where
  | absent : DescribesSide none none
  | null : DescribesSide (some .null) none
  | given {value : Json} {binding : Binding} :
    DescribesBinding value binding → DescribesSide (some value) (some binding)

inductive DescribesDeclaration : Json → Declaration → Prop where
  | object {fields : List (String × Json)} {value : Json} {signature : Signature}
    {incoming outgoing : Option Binding} :
    fields.lookup "signature" = some value → DescribesSignature value signature →
    DescribesSide (fields.lookup "incoming") incoming →
    DescribesSide (fields.lookup "outgoing") outgoing →
      DescribesDeclaration (.object fields) { signature, incoming, outgoing }

inductive DescribesManifest : Json → List Declaration → Prop where
  | array {values : List Json} {declarations : List Declaration} :
    List.Forall₂ DescribesDeclaration values declarations →
      DescribesManifest (.array values) declarations

theorem describesName_iff {kind : Kind} {input : Option Json} {name : String} :
    DescribesName kind input name ↔
      ∃ written,
        optional readNonemptyText input = .valid written ∧
          written.getD kind.defaultName = name := by
  constructor
  · rintro (_ | htext)
    · exact ⟨none, optional_eq_valid_none_iff.mpr rfl, rfl⟩
    · refine ⟨some name, optional_eq_valid_some_iff.mpr ⟨_, rfl, ?_⟩, rfl⟩
      exact readNonemptyText_eq_valid_iff.mpr ⟨rfl, htext⟩
  · rintro ⟨written, hread, rfl⟩
    cases written with
    | none =>
      rw [optional_eq_valid_none_iff.mp hread]
      exact .default
    | some text =>
      obtain ⟨value, rfl, hvalue⟩ := optional_eq_valid_some_iff.mp hread
      obtain ⟨rfl, htext⟩ := readNonemptyText_eq_valid_iff.mp hvalue
      exact .written htext

section Each

variable {read : Json → Checked α} {f : α → β} {describes : Json → β → Prop}

theorem exists_describes_of_mem {values : List Json} {elements : List β}
    (hforall : List.Forall₂ describes values elements) :
    ∀ element ∈ elements, ∃ value ∈ values, describes value element := by
  induction hforall with
  | nil => apply List.forall_mem_nil
  | cons hfirst _ ih =>
    rw [List.forall_mem_cons]
    constructor
    · exact ⟨_, List.mem_cons_self, hfirst⟩
    · intro element hmem
      obtain ⟨value, hvalue, hdescribes⟩ := ih element hmem
      exact ⟨value, List.mem_cons_of_mem _ hvalue, hdescribes⟩

theorem DescribesEach.exists_describes_of_mem {input : Option Json} {elements : List β}
    (h : DescribesEach describes input elements) :
    ∀ element ∈ elements,
      ∃ values, input = some (.array values) ∧ ∃ value ∈ values, describes value element := by
  cases h with
  | absent => apply List.forall_mem_nil
  | array hforall =>
    intro element hmem
    exact ⟨_, rfl, Metadata.exists_describes_of_mem hforall element hmem⟩

theorem map_readEachFrom_cons_eq_valid_iff {position : Nat} {value : Json} {values : List Json}
    {elements : List β} :
    List.map f <$> readEachFrom position read (value :: values) = .valid elements ↔
      ∃ first rest,
        f <$> read value = .valid first ∧
          List.map f <$> readEachFrom (position + 1) read values = .valid rest ∧
            elements = first :: rest := by
  simp only [readEachFrom, Checked.map_eq_valid_iff, Checked.map₂_eq_valid_iff,
    Checked.under_eq_valid_iff]
  constructor
  · rintro ⟨_, ⟨first, rest, hfirst, hrest, rfl⟩, rfl⟩
    exact ⟨f first, rest.map f, ⟨first, hfirst, rfl⟩, ⟨rest, hrest, rfl⟩, rfl⟩
  · rintro ⟨_, _, ⟨first, hfirst, rfl⟩, ⟨rest, hrest, rfl⟩, rfl⟩
    exact ⟨first :: rest, ⟨first, rest, hfirst, hrest, rfl⟩, rfl⟩

theorem map_readEachFrom_eq_valid_iff {position : Nat} {values : List Json}
    (h : ∀ value ∈ values, ∀ element, f <$> read value = .valid element ↔ describes value element)
    {elements : List β} :
    List.map f <$> readEachFrom position read values = .valid elements ↔
      List.Forall₂ describes values elements := by
  induction values generalizing position elements with
  | nil => simp [readEachFrom, eq_comm]
  | cons value values ih =>
    obtain ⟨hvalue, hvalues⟩ := List.forall_mem_cons.mp h
    rw [map_readEachFrom_cons_eq_valid_iff, List.forall₂_cons_left_iff]
    simp only [hvalue, ih hvalues]

theorem map_readEach_eq_valid_iff (value : Json) (elements : List β)
    (h :
      ∀ values, value = .array values →
        ∀ inner ∈ values, ∀ element, f <$> read inner = .valid element ↔ describes inner element) :
    List.map f <$> readEach read value = .valid elements ↔
      ∃ values, value = .array values ∧ List.Forall₂ describes values elements := by
  cases value with
  | array values =>
    rw [readEach, map_readEachFrom_eq_valid_iff (h values rfl)]
    simp
  | _ => simp [readEach]

theorem describesEach_iff (input : Option Json) (elements : List β)
    (h :
      ∀ values, input = some (.array values) →
        ∀ inner ∈ values, ∀ element, f <$> read inner = .valid element ↔ describes inner element) :
    DescribesEach describes input elements ↔
      ∃ written,
        optional (readEach read) input = .valid written ∧ (written.getD []).map f = elements := by
  cases input with
  | none =>
    constructor
    · rintro ⟨⟩
      exact ⟨none, rfl, rfl⟩
    · rintro ⟨_, ⟨⟩, rfl⟩
      exact .absent
  | some value =>
    have hsome :
        (∃ written,
          optional (readEach read) (some value) = .valid written ∧
            (written.getD []).map f = elements) ↔
          List.map f <$> readEach read value = .valid elements := by
      simp [optional]
    rw [hsome, map_readEach_eq_valid_iff value elements fun values heq =>
      h values (congrArg some heq)]
    constructor
    · rintro (_ | hforall)
      exact ⟨_, rfl, hforall⟩
    · rintro ⟨values, rfl, hforall⟩
      exact .array hforall

end Each

theorem WrittenType.argumentsToDescriptors_eq_map (arguments : Option (List WrittenType)) :
    argumentsToDescriptors arguments = (arguments.getD []).map toDescriptor := by
  cases arguments with
  | none => rfl
  | some types => exact toDescriptors_eq_map types

theorem WrittenType.toDescriptor_read_object_iff {fields : List (String × Json)} {kind : Kind}
    {name : String} {arguments : List Descriptor} :
    toDescriptor <$> read (.object fields) = .valid { kind, name, arguments } ↔
      fields.lookup "kind" = some (.string kind.name) ∧
        DescribesName kind (fields.lookup "name") name ∧
          ∃ written,
            optional (readEach read) (fields.lookup "typeArguments") = .valid written ∧
              (written.getD []).map toDescriptor = arguments := by
  rw [read, readArguments_eq]
  simp only [Checked.map_eq_valid_iff, Checked.map₃_eq_valid_iff, field_eq_valid_iff,
    required_eq_valid_iff, readKind_eq_valid_iff, exists_eq_right, describesName_iff]
  constructor
  · rintro ⟨_, ⟨kind, name, written, hkind, hname, hwritten, rfl⟩, htype⟩
    rw [toDescriptor, argumentsToDescriptors_eq_map, Descriptor.mk.injEq] at htype
    obtain ⟨rfl, rfl, rfl⟩ := htype
    exact ⟨hkind, ⟨name, hname, rfl⟩, written, hwritten, rfl⟩
  · rintro ⟨hkind, ⟨name, hname, rfl⟩, written, hwritten, rfl⟩
    refine ⟨_, ⟨kind, name, written, hkind, hname, hwritten, rfl⟩, ?_⟩
    rw [toDescriptor, argumentsToDescriptors_eq_map]

/--
What is read as a type is what the value describes.
-/
theorem describesType_iff (value : Json) :
    ∀ type, WrittenType.toDescriptor <$> WrittenType.read value = .valid type ↔
      DescribesType value type := by
  induction value using WrittenType.induction_on_arguments with
  | h value ih =>
    rintro ⟨kind, name, arguments⟩
    cases value with
    | object fields =>
      have harguments :=
        describesEach_iff (fields.lookup "typeArguments") arguments
          fun values hlookup inner hmem element => ih fields values rfl hlookup inner hmem element
      rw [WrittenType.toDescriptor_read_object_iff, ← harguments]
      constructor
      · rintro ⟨hkind, hname, hdescribes⟩
        exact .object hkind hname hdescribes
      · rintro (⟨hkind, hname, hdescribes⟩)
        exact ⟨hkind, hname, hdescribes⟩
    | _ =>
      apply iff_of_false
      · simp [WrittenType.read]
      · rintro ⟨⟩

theorem describesEach_type_iff {input : Option Json} {types : List Descriptor} :
    DescribesEach DescribesType input types ↔
      ∃ written,
        optional (readEach WrittenType.read) input = .valid written ∧
          (written.getD []).map WrittenType.toDescriptor = types := by
  apply describesEach_iff
  intro values _ inner _ element
  apply describesType_iff

theorem describesSignature_iff (value : Json) (signature : Signature) :
    WrittenSignature.toSignature <$> WrittenSignature.read value = .valid signature ↔
      DescribesSignature value signature := by
  cases value with
  | object fields =>
    simp only [WrittenSignature.read, Checked.map_eq_valid_iff, Checked.map₃_eq_valid_iff,
      field_eq_valid_iff, required_eq_valid_iff, readNonemptyText_eq_valid_iff]
    constructor
    · rintro ⟨_, ⟨identity, returns, _, ⟨_, hidentity, rfl, hnonempty⟩,
        ⟨value, hlookup, hreturns⟩, ⟨written, hwritten, rfl⟩, rfl⟩, rfl⟩
      refine .object hidentity hnonempty hlookup ?_ ?_
      · exact (describesType_iff _ _).mp (Checked.map_eq_valid_iff.mpr ⟨returns, hreturns, rfl⟩)
      · exact describesEach_type_iff.mpr ⟨written, hwritten, rfl⟩
    · rintro (⟨hidentity, hnonempty, hlookup, hdescribes, hparameters⟩)
      obtain ⟨returns, hreturns, rfl⟩ :=
        Checked.map_eq_valid_iff.mp ((describesType_iff _ _).mpr hdescribes)
      obtain ⟨written, hwritten, rfl⟩ := describesEach_type_iff.mp hparameters
      exact ⟨_, ⟨_, returns, _, ⟨_, hidentity, rfl, hnonempty⟩, ⟨_, hlookup, hreturns⟩,
        ⟨written, hwritten, rfl⟩, rfl⟩, rfl⟩
  | _ =>
    apply iff_of_false
    · simp [WrittenSignature.read]
    · rintro ⟨⟩

theorem optional_readText_eq_valid_iff {input : Option Json} {provider : Option String} :
    optional readText input = .valid provider ↔ input = provider.map .string := by
  cases provider with
  | none => rw [optional_eq_valid_none_iff, Option.map_none]
  | some text => simp [optional_eq_valid_some_iff, readText_eq_valid_iff]

theorem describesBinding_iff (value : Json) (binding : Binding) :
    readBinding value = .valid binding ↔ DescribesBinding value binding := by
  cases value with
  | object fields =>
    simp only [readBinding, Checked.map₂_eq_valid_iff, field_eq_valid_iff, required_eq_valid_iff,
      readChannel_eq_valid_iff, optional_readText_eq_valid_iff, Text.isBlankText_eq_false_iff,
      Text.trim_eq_iff]
    constructor
    · rintro ⟨channel, provider, ⟨_, hlookup, text, rfl, haudible, htrims⟩, hprovider, rfl⟩
      exact .object hlookup haudible htrims hprovider
    · rintro (⟨hlookup, haudible, htrims, hprovider⟩)
      exact ⟨_, _, ⟨_, hlookup, _, rfl, haudible, htrims⟩, hprovider, rfl⟩
  | _ =>
    apply iff_of_false
    · simp [readBinding]
    · rintro ⟨⟩

theorem describesSide_iff (input : Option Json) (binding? : Option Binding) :
    WrittenBinding.toBinding? <$> WrittenBinding.read input = .valid binding? ↔
      DescribesSide input binding? := by
  rw [Checked.map_eq_valid_iff]
  cases input with
  | none =>
    constructor
    · rintro ⟨_, ⟨⟩, rfl⟩
      exact .absent
    · rintro ⟨⟩
      exact ⟨.absent, rfl, rfl⟩
  | some value =>
    by_cases hnull : value = .null
    · subst hnull
      constructor
      · rintro ⟨_, ⟨⟩, rfl⟩
        exact .null
      · rintro (_ | _ | hdescribes)
        · exact ⟨.null, rfl, rfl⟩
        · cases hdescribes
    · rw [WrittenBinding.read_some_of_ne_null hnull]
      simp only [Checked.map_eq_valid_iff, describesBinding_iff]
      constructor
      · rintro ⟨_, ⟨binding, hdescribes, rfl⟩, rfl⟩
        exact .given hdescribes
      · rintro (_ | _ | hdescribes)
        · exact absurd rfl hnull
        · exact ⟨_, ⟨_, hdescribes, rfl⟩, rfl⟩

theorem describesDeclaration_iff (value : Json) (declaration : Declaration) :
    Entry.toDeclaration <$> Entry.read value = .valid declaration ↔
      DescribesDeclaration value declaration := by
  cases value with
  | object fields =>
    simp only [Entry.read, Checked.map_eq_valid_iff, Checked.map₃_eq_valid_iff,
      field_eq_valid_iff, required_eq_valid_iff]
    constructor
    · rintro ⟨_, ⟨signature, incoming, outgoing, ⟨value, hlookup, hsignature⟩, hincoming,
        houtgoing, rfl⟩, rfl⟩
      refine .object hlookup ?_ ?_ ?_
      · exact (describesSignature_iff _ _).mp
          (Checked.map_eq_valid_iff.mpr ⟨signature, hsignature, rfl⟩)
      · exact (describesSide_iff _ _).mp (Checked.map_eq_valid_iff.mpr ⟨incoming, hincoming, rfl⟩)
      · exact (describesSide_iff _ _).mp (Checked.map_eq_valid_iff.mpr ⟨outgoing, houtgoing, rfl⟩)
    · rintro (⟨hlookup, hdescribes, hdescribesIn, hdescribesOut⟩)
      obtain ⟨signature, hsignature, rfl⟩ :=
        Checked.map_eq_valid_iff.mp ((describesSignature_iff _ _).mpr hdescribes)
      obtain ⟨incoming, hincoming, rfl⟩ :=
        Checked.map_eq_valid_iff.mp ((describesSide_iff _ _).mpr hdescribesIn)
      obtain ⟨outgoing, houtgoing, rfl⟩ :=
        Checked.map_eq_valid_iff.mp ((describesSide_iff _ _).mpr hdescribesOut)
      exact ⟨_, ⟨signature, incoming, outgoing, ⟨_, hlookup, hsignature⟩, hincoming, houtgoing,
        rfl⟩, rfl⟩
  | _ =>
    apply iff_of_false
    · simp [Entry.read]
    · rintro ⟨⟩

theorem DescribesManifest.exists_describes_of_mem {value : Json}
    {declarations : List Declaration} (h : DescribesManifest value declarations) :
    ∀ declaration ∈ declarations, ∃ entry, DescribesDeclaration entry declaration := by
  cases h with
  | array hforall =>
    intro declaration hmem
    obtain ⟨entry, _, hdescribes⟩ := Metadata.exists_describes_of_mem hforall declaration hmem
    exact ⟨entry, hdescribes⟩

theorem describesManifest_iff (value : Json) (declarations : List Declaration) :
    Manifest.toDeclarations <$> Manifest.read value = .valid declarations ↔
      DescribesManifest value declarations := by
  have h :=
    map_readEach_eq_valid_iff value declarations fun _ _ inner _ => describesDeclaration_iff inner
  change List.map _ <$> readEach _ _ = _ ↔ _
  rw [h]
  constructor
  · rintro ⟨values, rfl, hforall⟩
    exact .array hforall
  · rintro (⟨hforall⟩)
    exact ⟨_, rfl, hforall⟩

/--
A parser accepts the values that describe something, returns what they describe and refuses
everything else for at least one violation.
-/
structure Parses (parse : Option Json → Except Fault α) (subject : String)
    (describes : Json → α → Prop) : Prop where
  ok_iff :
    ∀ input result,
      parse input = .ok result ↔ ∃ value, input = some value ∧ describes value result
  error :
    ∀ input fault,
      parse input = .error fault → ∃ first rest, fault = .invalid subject (first :: rest)

theorem parses_of_describes {read : Json → Checked α} {f : α → β} {describes : Json → β → Prop}
    (h : ∀ value result, f <$> read value = .valid result ↔ describes value result)
    (subject : String) :
    Parses (fun input => f <$> (required read input).orFault subject) subject describes := by
  have hmap (input : Option Json) :
      f <$> (required read input).orFault subject =
        (f <$> required read input).orFault subject := by
    cases required read input <;> rfl
  constructor
  · intro input result
    rw [hmap, Checked.orFault_eq_ok_iff, Checked.map_eq_valid_iff]
    simp only [required_eq_valid_iff, ← h, Checked.map_eq_valid_iff]
    constructor
    · rintro ⟨written, ⟨value, rfl, hread⟩, rfl⟩
      exact ⟨value, rfl, written, hread, rfl⟩
    · rintro ⟨value, rfl, written, hread, rfl⟩
      exact ⟨written, ⟨value, rfl, hread⟩, rfl⟩
  · intro input fault herror
    rw [hmap, Checked.orFault_eq_error_iff] at herror
    obtain ⟨hne, rfl⟩ := herror
    obtain ⟨first, rest, heq⟩ := List.exists_cons_of_ne_nil hne
    exact ⟨first.toIssue, rest.map Violation.toIssue, by rw [heq, List.map_cons]⟩

theorem parses_type : Parses parseType "type descriptor" DescribesType := by
  have h := parses_of_describes describesType_iff "type descriptor"
  simp only [← construct_eq_map WrittenType.build_eq_toDescriptor] at h
  exact h

theorem parses_signature : Parses parseSignature "signature" DescribesSignature := by
  have h := parses_of_describes describesSignature_iff "signature"
  simp only [← construct_eq_map WrittenSignature.build_eq_toSignature] at h
  exact h

theorem parses_binding : Parses parseBinding "channel binding" DescribesBinding := by
  have h := parses_of_describes (f := id) (by simpa using describesBinding_iff) "channel binding"
  simp only [id_map] at h
  exact h

theorem parses_manifest : Parses parseManifest "manifest" DescribesManifest := by
  have h := parses_of_describes describesManifest_iff "manifest"
  simp only [← construct_eq_map Manifest.build_eq_toDeclarations] at h
  exact h

/--
Each parser accepts exactly its part of the grammar and returns what the grammar says is described.
No value that is accepted fails to be constructed.
-/
theorem parsers_accept_grammar :
    Parses parseType "type descriptor" DescribesType ∧
      Parses parseSignature "signature" DescribesSignature ∧
        Parses parseBinding "channel binding" DescribesBinding ∧
          Parses parseManifest "manifest" DescribesManifest := by
  exact ⟨parses_type, parses_signature, parses_binding, parses_manifest⟩

end Mediation.Metadata

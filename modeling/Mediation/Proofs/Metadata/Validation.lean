import Mediation.Metadata.Manifest
import Mediation.Proofs.Metadata.Path
import Mediation.Proofs.Metadata.Wording
import Mediation.Proofs.Text.Trim

/-!
This module contains what the readers report: every position that violates its schema, exactly once,
in the order in which positions are visited and in the words for what it violates.
-/

namespace Mediation.Metadata

/--
Violations that are all those of a position, in the order in which it is visited.
-/
structure Reports (presence : Presence) (schema : Schema) (input : Option Json)
    (violations : List Violation) : Prop where
  mem_iff :
    ∀ path cause,
      { path, cause } ∈ violations ↔ ViolatedAt presence schema input path cause
  ordered : violations.Pairwise fun first second => Precedes schema first.path second.path

variable {presence : Presence} {schema : Schema} {input : Option Json} {value : Json}
  {path : Path} {cause : Cause}

theorem reports_nil (h : ∀ path cause, ¬ViolatedAt presence schema input path cause) :
    Reports presence schema input [] := by
  constructor
  · simpa using h
  · exact .nil

theorem reports_singleton
    (h :
      ∀ path other, ViolatedAt presence schema input path other ↔ path = [] ∧ other = cause) :
    Reports presence schema input [{ path := [], cause }] := by
  constructor
  · simpa using fun path other => (h path other).symm
  · apply List.pairwise_singleton

theorem Schema.expected_of_mem_fields {field : String × Presence × Schema}
    (h : field ∈ schema.fields) : schema.expected = .object := by
  cases schema with
  | type | signature | binding | entry => rfl
  | _ => cases h

theorem violatedAt_iff_of_tag_ne (htag : value.tag ≠ schema.expected.tag)
    (hnull : ¬(presence = .nullable ∧ value = .null)) :
    ViolatedAt presence schema (some value) path cause ↔
      path = [] ∧ cause = .mismatch schema.expected value.tag := by
  constructor
  · intro h
    cases h with
    | here _ hviolates =>
      cases hviolates with
      | mismatch => exact ⟨rfl, rfl⟩
      | _ => exact absurd rfl htag
    | field hmem _ =>
      rw [Schema.expected_of_mem_fields hmem] at htag
      exact absurd rfl htag
    | element => exact absurd rfl htag
  · rintro ⟨rfl, rfl⟩
    exact .here hnull (.mismatch htag)

theorem reports_mismatch (htag : value.tag ≠ schema.expected.tag) :
    Reports .required schema (some value) [⟨[], .mismatch schema.expected value.tag⟩] := by
  apply reports_singleton
  intro path other
  apply violatedAt_iff_of_tag_ne htag
  simp

theorem violatedAt_string_iff {text : String} :
    ViolatedAt presence schema (some (.string text)) path cause ↔
      path = [] ∧ Violates schema (.string text) cause := by
  constructor
  · intro h
    cases h with
    | here _ hviolates => exact ⟨rfl, hviolates⟩
  · rintro ⟨rfl, hviolates⟩
    exact .here (by simp) hviolates

/--
A text violates a schema for at most one cause, which is there exactly if a condition is met.
-/
theorem reports_string {text : String} {condition : Prop}
    (h : ∀ other, Violates schema (.string text) other ↔ condition ∧ other = cause)
    {violations : List Violation}
    (hviolations :
      condition ∧ violations = [{ path := [], cause }] ∨ ¬condition ∧ violations = []) :
    Reports presence schema (some (.string text)) violations := by
  rcases hviolations with ⟨hcondition, rfl⟩ | ⟨hcondition, rfl⟩
  · apply reports_singleton
    intro path other
    rw [violatedAt_string_iff, h]
    simp [hcondition]
  · apply reports_nil
    intro path other
    rw [violatedAt_string_iff, h]
    simp [hcondition]

theorem violates_kind_iff {text : String} :
    Violates .kind (.string text) cause ↔
      Kind.ofName? text = none ∧ cause = .unknownKind text := by
  have hnone : Kind.ofName? text = none ↔ ∀ kind : Kind, text ≠ kind.name := by
    rw [Option.eq_none_iff_forall_ne_some]
    simp only [ne_eq, Kind.ofName?_eq_some_iff]
  rw [hnone]
  constructor
  · rintro (htag | hunknown | _ | _)
    · exact absurd rfl htag
    · exact ⟨hunknown, rfl⟩
  · rintro ⟨hunknown, rfl⟩
    exact .unknownKind hunknown

theorem not_violates_text {text : String} : ¬Violates .text (.string text) cause := by
  rintro (htag | _ | _ | _)
  exact htag rfl

theorem violates_nonemptyText_iff {text : String} :
    Violates .nonemptyText (.string text) cause ↔ text = "" ∧ cause = .emptyText := by
  constructor
  · rintro (htag | _ | _ | _)
    · exact absurd rfl htag
    · exact ⟨rfl, rfl⟩
  · rintro ⟨rfl, rfl⟩
    exact .emptyText

theorem violates_channel_iff {text : String} :
    Violates .channel (.string text) cause ↔
      Text.isBlankText text = true ∧ cause = .blankChannel := by
  rw [Text.isBlankText_iff]
  constructor
  · rintro (htag | _ | _ | hblank)
    · exact absurd rfl htag
    · exact ⟨hblank, rfl⟩
  · rintro ⟨hblank, rfl⟩
    exact .blankChannel hblank

theorem reports_readKind (value : Json) :
    Reports .required .kind (some value) (readKind value).violations := by
  cases value with
  | string text =>
    apply reports_string fun _ => violates_kind_iff
    cases hkind : Kind.ofName? text <;> simp [readKind, hkind]
  | _ => exact reports_mismatch (by simp [Json.tag])

theorem reports_readText (value : Json) :
    Reports .required .text (some value) (readText value).violations := by
  cases value with
  | string text =>
    apply reports_nil
    intro path cause
    simp [violatedAt_string_iff, not_violates_text]
  | _ => exact reports_mismatch (by simp [Json.tag])

theorem reports_readNonemptyText (value : Json) :
    Reports .required .nonemptyText (some value) (readNonemptyText value).violations := by
  cases value with
  | string text =>
    apply reports_string fun _ => violates_nonemptyText_iff
    by_cases hempty : text = "" <;> simp [readNonemptyText, atLeastOne_eq_ite, hempty]
  | _ => exact reports_mismatch (by simp [Json.tag])

theorem reports_readChannel (value : Json) :
    Reports .required .channel (some value) (readChannel value).violations := by
  cases value with
  | string text =>
    apply reports_string fun _ => violates_channel_iff
    cases hblank : Text.isBlankText text <;> simp [readChannel_string, hblank]
  | _ => exact reports_mismatch (by simp [Json.tag])

theorem reports_required {read : Json → Checked α} (input : Option Json)
    (h :
      ∀ value, input = some value →
        Reports .required schema (some value) (read value).violations) :
    Reports .required schema input (required read input).violations := by
  cases input with
  | none =>
    apply reports_singleton
    intro path other
    constructor
    · rintro ⟨⟩
      exact ⟨rfl, rfl⟩
    · rintro ⟨rfl, rfl⟩
      exact .missing
  | some value => exact h value rfl

/--
Whether a position may be left out only matters where nothing is written.
-/
theorem violatedAt_some_iff (hnull : ¬(presence = .nullable ∧ value = .null)) :
    ViolatedAt presence schema (some value) path cause ↔
      ViolatedAt .required schema (some value) path cause := by
  constructor
  · rintro (_ | ⟨_, hviolates⟩ | ⟨hmem, hinner⟩ | ⟨hget, hinner⟩)
    · exact .here (by simp) hviolates
    · exact .field hmem hinner
    · exact .element hget hinner
  · rintro (_ | ⟨_, hviolates⟩ | ⟨hmem, hinner⟩ | ⟨hget, hinner⟩)
    · exact .here hnull hviolates
    · exact .field hmem hinner
    · exact .element hget hinner

theorem Reports.of_required {violations : List Violation}
    (h : Reports .required schema (some value) violations)
    (hnull : ¬(presence = .nullable ∧ value = .null)) :
    Reports presence schema (some value) violations := by
  constructor
  · intro path cause
    rw [h.mem_iff, violatedAt_some_iff hnull]
  · exact h.ordered

theorem reports_optional {read : Json → Checked α} (input : Option Json)
    (h :
      ∀ value, input = some value →
        Reports .required schema (some value) (read value).violations) :
    Reports .optional schema input (optional read input).violations := by
  cases input with
  | none =>
    apply reports_nil
    rintro path cause ⟨⟩
  | some value =>
    unfold optional
    rw [Checked.violations_map]
    exact (h value rfl).of_required (by simp)

section Object

variable {fields : List (String × Json)} {shape : List (String × Presence × Schema)}
  {violations : List Violation}

/--
The violations in the fields of an object, field by field.
-/
inductive ReportsFields (fields : List (String × Json)) :
    List (String × Presence × Schema) → List Violation → Prop where
  | nil : ReportsFields fields [] []
  | cons {key : String} {presence : Presence} {schema : Schema}
    {shape : List (String × Presence × Schema)} {inner violations : List Violation} :
    Reports presence schema (fields.lookup key) inner → ReportsFields fields shape violations →
      ReportsFields fields ((key, presence, schema) :: shape)
        (inner.map (·.under (.field key)) ++ violations)

theorem mem_map_under_iff {segment : Segment} {inner : List Violation} :
    { path, cause } ∈ inner.map (·.under segment) ↔
      ∃ rest, path = segment :: rest ∧ { path := rest, cause } ∈ inner := by
  rw [List.mem_map]
  constructor
  · rintro ⟨⟨rest, _⟩, hmem, heq⟩
    obtain ⟨rfl, rfl⟩ := Violation.mk.inj heq
    exact ⟨rest, rfl, hmem⟩
  · rintro ⟨rest, rfl, hmem⟩
    exact ⟨_, hmem, rfl⟩

theorem ReportsFields.mem_iff (h : ReportsFields fields shape violations) :
    { path, cause } ∈ violations ↔
      ∃ key presence schema,
        (key, presence, schema) ∈ shape ∧
          ∃ rest,
            path = .field key :: rest ∧
              ViolatedAt presence schema (fields.lookup key) rest cause := by
  induction h with
  | nil => simp
  | @cons key presence schema shape inner violations hinner _ ih =>
    rw [List.mem_append, ih, mem_map_under_iff]
    simp only [hinner.mem_iff, List.mem_cons, Prod.mk.injEq]
    constructor
    · rintro (⟨rest, rfl, hviolated⟩ | ⟨other, hpresence, htarget, hmem, hviolated⟩)
      · exact ⟨key, presence, schema, .inl ⟨rfl, rfl, rfl⟩, rest, rfl, hviolated⟩
      · exact ⟨other, hpresence, htarget, .inr hmem, hviolated⟩
    · rintro ⟨other, _, _, ⟨rfl, rfl, rfl⟩ | hmem, hviolated⟩
      · exact .inl hviolated
      · exact .inr ⟨other, _, _, hmem, hviolated⟩

theorem ReportsFields.ordered (h : ReportsFields fields shape violations)
    (hshape : shape.Sublist schema.fields) :
    violations.Pairwise fun first second => Precedes schema first.path second.path := by
  induction h with
  | nil => exact .nil
  | @cons key presence target shape inner violations hinner hrest ih =>
    rw [List.pairwise_append]
    refine ⟨?_, ih ((List.sublist_cons_self _ _).trans hshape), ?_⟩
    · rw [List.pairwise_map]
      apply hinner.ordered.imp
      intro first second hprecedes
      exact .insideField (hshape.subset List.mem_cons_self) hprecedes
    -- A violation in a later field comes after all those in this one.
    · rintro ⟨left, _⟩ hleft ⟨right, _⟩ hright
      obtain ⟨left, rfl, _⟩ := mem_map_under_iff.mp hleft
      obtain ⟨later, laterPresence, laterTarget, hmem, right, rfl, _⟩ := hrest.mem_iff.mp hright
      have hsublist :
          [(key, presence, target), (later, laterPresence, laterTarget)].Sublist schema.fields :=
        ((List.singleton_sublist.mpr hmem).cons_cons _).trans hshape
      exact Precedes.fields hsublist

theorem reports_object (hexpected : schema.expected = .object)
    (h : ReportsFields fields schema.fields violations) :
    Reports .required schema (some (.object fields)) violations := by
  constructor
  · intro path cause
    rw [h.mem_iff]
    constructor
    · rintro ⟨key, presence, target, hmem, rest, rfl, hviolated⟩
      exact .field hmem hviolated
    · intro hviolated
      cases hviolated with
      | here _ hviolates =>
        cases hviolates with
        | mismatch htag =>
          rw [hexpected] at htag
          exact absurd rfl htag
      | field hmem hinner => exact ⟨_, _, _, hmem, _, rfl, hinner⟩
  · exact h.ordered (List.Sublist.refl _)

end Object

section Each

variable {read : Json → Checked α} {values : List Json} {position : Nat}

theorem mem_readEachFrom_iff
    (h : ∀ value ∈ values, Reports .required schema (some value) (read value).violations) :
    { path, cause } ∈ (readEachFrom position read values).violations ↔
      ∃ index value,
        values[index]? = some value ∧
          ∃ rest,
            path = .index (position + index) :: rest ∧
              ViolatedAt .required schema (some value) rest cause := by
  induction values generalizing position with
  | nil => simp [readEachFrom]
  | cons value values ih =>
    obtain ⟨hvalue, hvalues⟩ := List.forall_mem_cons.mp h
    rw [readEachFrom, Checked.violations_seq, Checked.violations_map, Checked.violations_under,
      List.mem_append, ih hvalues, mem_map_under_iff]
    simp only [hvalue.mem_iff]
    constructor
    · rintro (⟨rest, rfl, hviolated⟩ | ⟨index, later, hget, rest, rfl, hviolated⟩)
      · exact ⟨0, value, rfl, rest, rfl, hviolated⟩
      · refine ⟨index + 1, later, hget, rest, ?_, hviolated⟩
        rw [Nat.add_assoc, Nat.add_comm 1]
    · rintro ⟨index, later, hget, rest, rfl, hviolated⟩
      cases index with
      | zero =>
        obtain rfl := Option.some.inj hget
        exact .inl ⟨rest, rfl, hviolated⟩
      | succ index =>
        refine .inr ⟨index, later, hget, rest, ?_, hviolated⟩
        rw [Nat.add_assoc, Nat.add_comm 1]

theorem ordered_readEachFrom
    (h : ∀ value ∈ values, Reports .required schema (some value) (read value).violations) :
    (readEachFrom position read values).violations.Pairwise fun first second =>
      Precedes (.array schema) first.path second.path := by
  induction values generalizing position with
  | nil => exact .nil
  | cons value values ih =>
    obtain ⟨hvalue, hvalues⟩ := List.forall_mem_cons.mp h
    rw [readEachFrom, Checked.violations_seq, Checked.violations_map, Checked.violations_under,
      List.pairwise_append]
    refine ⟨?_, ih hvalues, ?_⟩
    · rw [List.pairwise_map]
      apply hvalue.ordered.imp
      intro first second hprecedes
      exact .insideElement hprecedes
    · rintro ⟨left, _⟩ hleft ⟨right, _⟩ hright
      obtain ⟨left, rfl, _⟩ := mem_map_under_iff.mp hleft
      obtain ⟨index, later, _, right, rfl, _⟩ := (mem_readEachFrom_iff hvalues).mp hright
      exact .elements (by omega)

theorem reports_readEach (value : Json)
    (h :
      ∀ values, value = .array values →
        ∀ inner ∈ values, Reports .required schema (some inner) (read inner).violations) :
    Reports .required (.array schema) (some value) (readEach read value).violations := by
  cases value with
  | array values =>
    constructor
    · intro path cause
      rw [readEach, mem_readEachFrom_iff (h values rfl)]
      simp only [Nat.zero_add]
      constructor
      · rintro ⟨index, value, hget, rest, rfl, hviolated⟩
        exact .element hget hviolated
      · intro hviolated
        cases hviolated with
        | here _ hviolates =>
          cases hviolates with
          | mismatch htag => exact absurd rfl htag
        | element hget hinner => exact ⟨_, _, hget, _, rfl, hinner⟩
    · exact ordered_readEachFrom (h values rfl)
  | _ => exact reports_mismatch (by simp [Json.tag])

end Each

theorem Reports.cons_field {fields : List (String × Json)} {key : String}
    {read : Option Json → Checked α} {shape : List (String × Presence × Schema)}
    {violations : List Violation}
    (hfield : Reports presence schema (fields.lookup key) (read (fields.lookup key)).violations)
    (hrest : ReportsFields fields shape violations) :
    ReportsFields fields ((key, presence, schema) :: shape)
      ((field fields key read).violations ++ violations) := by
  unfold field
  rw [Checked.violations_under]
  exact .cons hfield hrest

theorem reports_readType (value : Json) :
    Reports .required .type (some value) (WrittenType.read value).violations := by
  induction value using WrittenType.induction_on_arguments with
  | h value ih =>
    cases value with
    | object fields =>
      have hkind := reports_required (fields.lookup "kind") fun value _ => reports_readKind value
      have hname :=
        reports_optional (fields.lookup "name") fun value _ => reports_readNonemptyText value
      -- The arguments are the only types inside a type, and the hypothesis covers each of them.
      have harguments :=
        reports_optional (fields.lookup "typeArguments") fun value hlookup =>
          reports_readEach value fun values heq inner hmem =>
            ih fields values rfl (heq ▸ hlookup) inner hmem
      apply reports_object rfl
      rw [WrittenType.read, WrittenType.readArguments_eq]
      simpa [Schema.fields] using hkind.cons_field (hname.cons_field (harguments.cons_field .nil))
    | _ => exact reports_mismatch (by simp [Json.tag])

theorem reports_readSignature (value : Json) :
    Reports .required .signature (some value) (WrittenSignature.read value).violations := by
  cases value with
  | object fields =>
    have hidentity :=
      reports_required (fields.lookup "identity") fun value _ => reports_readNonemptyText value
    have hreturns :=
      reports_required (fields.lookup "returns") fun value _ => reports_readType value
    have hparameters :=
      reports_optional (fields.lookup "parameters") fun value _ =>
        reports_readEach value fun values _ inner _ => reports_readType inner
    apply reports_object rfl
    rw [WrittenSignature.read]
    simpa [Schema.fields] using
      hidentity.cons_field (hreturns.cons_field (hparameters.cons_field .nil))
  | _ => exact reports_mismatch (by simp [Json.tag])

theorem reports_readBinding (value : Json) :
    Reports .required .binding (some value) (readBinding value).violations := by
  cases value with
  | object fields =>
    have hchannel :=
      reports_required (fields.lookup "channel") fun value _ => reports_readChannel value
    have hprovider :=
      reports_optional (fields.lookup "provider") fun value _ => reports_readText value
    apply reports_object rfl
    rw [readBinding]
    simpa [Schema.fields] using hchannel.cons_field (hprovider.cons_field .nil)
  | _ => exact reports_mismatch (by simp [Json.tag])

theorem reports_readSide (input : Option Json) :
    Reports .nullable .binding input (WrittenBinding.read input).violations := by
  cases input with
  | none =>
    apply reports_nil
    rintro path cause ⟨⟩
  | some value =>
    by_cases hnull : value = .null
    · subst hnull
      apply reports_nil
      rintro path cause (_ | ⟨hpresent, _⟩ | _ | _)
      exact hpresent ⟨rfl, rfl⟩
    · rw [WrittenBinding.read_some_of_ne_null hnull, Checked.violations_map]
      exact (reports_readBinding value).of_required (by simp [hnull])

theorem reports_readEntry (value : Json) :
    Reports .required .entry (some value) (Entry.read value).violations := by
  cases value with
  | object fields =>
    have hsignature :=
      reports_required (fields.lookup "signature") fun value _ => reports_readSignature value
    have hincoming := reports_readSide (fields.lookup "incoming")
    have houtgoing := reports_readSide (fields.lookup "outgoing")
    apply reports_object rfl
    rw [Entry.read]
    simpa [Schema.fields] using
      hsignature.cons_field (hincoming.cons_field (houtgoing.cons_field .nil))
  | _ => exact reports_mismatch (by simp [Json.tag])

theorem reports_readManifest (value : Json) :
    Reports .required .manifest (some value) (Manifest.read value).violations := by
  apply reports_readEach
  intro values _ inner _
  exact reports_readEntry inner

/--
What a caller can tell from the violations of a schema that are reported of a value.
-/
structure Schema.Reported (schema : Schema) (input : Option Json)
    (violations : List Violation) : Prop where
  mem_iff :
    ∀ path cause,
      { path, cause } ∈ violations ↔ ViolatedAt .required schema input path cause
  ordered : violations.Pairwise fun first second => Precedes schema first.path second.path
  separate :
    violations.Pairwise fun first second =>
      ¬first.path <+: second.path ∧ ¬second.path <+: first.path
  worded : ∀ violation ∈ violations, violation.cause.WordedAs violation.cause.message
  joined :
    violations.Pairwise fun first second =>
      ∀ text, first.path.WrittenAs text → ¬second.path.WrittenAs text
  root :
    ∀ violation ∈ violations,
      violation.path.WrittenAs "" → violation.path = [] ∧ violations = [violation]

theorem Reports.isPlain {violations : List Violation}
    (h : Reports presence schema input violations) {violation : Violation}
    (hmem : violation ∈ violations) : ∀ segment ∈ violation.path, segment.IsPlain := by
  exact ((h.mem_iff violation.path violation.cause).mp hmem).isPlain

theorem Reports.eq_singleton {violations : List Violation}
    (h : Reports presence schema input violations) {violation : Violation}
    (hmem : violation ∈ violations) (hroot : violation.path = []) :
    violations = [violation] := by
  -- Nothing is visited before or after the root.
  obtain ⟨before, behind, rfl⟩ := List.append_of_mem hmem
  have hordered := h.ordered
  rw [List.pairwise_append, List.pairwise_cons] at hordered
  obtain ⟨_, ⟨hbehind, _⟩, hbefore⟩ := hordered
  have hbeforeNil : before = [] := by
    rw [List.eq_nil_iff_forall_not_mem]
    intro other hother
    exact (hbefore other hother violation List.mem_cons_self).ne_nil.2 hroot
  have hbehindNil : behind = [] := by
    rw [List.eq_nil_iff_forall_not_mem]
    intro other hother
    exact (hbehind other hother).ne_nil.1 hroot
  rw [hbeforeNil, hbehindNil]
  rfl

theorem Reports.reported {violations : List Violation}
    (h : Reports .required schema input violations) : schema.Reported input violations := by
  constructor
  · exact h.mem_iff
  · exact h.ordered
  · exact h.ordered.imp fun hprecedes => hprecedes.not_isPrefix
  · intro violation _
    exact violation.cause.wordedAs_message
  · apply h.ordered.imp_of_mem
    intro first second hfirst hsecond hprecedes text
    rw [Path.writtenAs_iff, Path.writtenAs_iff]
    rintro rfl
    exact hprecedes.format_ne (h.isPlain hfirst) (h.isPlain hsecond)
  · intro violation hmem hwritten
    rw [Path.writtenAs_iff] at hwritten
    have hroot := Path.eq_nil_of_format_eq (h.isPlain hmem) hwritten.symm
    exact ⟨hroot, h.eq_singleton hmem hroot⟩

/--
A parser that fails exactly if there are violations, and then lists them one by one. Different
violations are listed under different paths, and under the empty path only that of the whole value,
on its own.
-/
structure Raises (subject : String) (violations : List Violation) (result : Except Fault α) :
    Prop where
  fails_iff : (∃ fault, result = .error fault) ↔ violations ≠ []
  lists :
    ∀ fault, result = .error fault →
      ∃ issues,
        fault.ListsIssues subject issues ∧
          List.Forall₂ Violation.ReportedAs violations issues ∧
            (issues.map (·.path)).Nodup ∧
              ∀ issue ∈ issues, issue.path = "" →
                issues = [issue] ∧ ∃ cause, violations = [{ path := [], cause }]

theorem Schema.Reported.nodup_paths {violations : List Violation}
    (h : schema.Reported input violations) :
    ((violations.map Violation.toIssue).map (·.path)).Nodup := by
  rw [List.map_map]
  apply List.pairwise_map.mpr
  apply h.joined.imp
  intro first second hjoined heq
  exact hjoined _ (Path.writtenAs_iff.mpr rfl) (Path.writtenAs_iff.mpr heq)

theorem Schema.Reported.eq_of_path_eq {violations : List Violation}
    (h : schema.Reported input violations) :
    ∀ issue ∈ violations.map Violation.toIssue, issue.path = "" →
      violations.map Violation.toIssue = [issue] ∧
        ∃ cause, violations = [{ path := [], cause }] := by
  rw [List.forall_mem_map]
  intro violation hmem hpath
  obtain ⟨hroot, hsingle⟩ := h.root violation hmem (Path.writtenAs_iff.mpr hpath.symm)
  rcases violation with ⟨path, cause⟩
  cases hroot
  rw [hsingle]
  exact ⟨rfl, cause, rfl⟩

theorem Schema.Reported.raises {violations : List Violation} {result : Except Fault α}
    {subject : String} (h : schema.Reported input violations)
    (herror :
      ∀ fault, result = .error fault ↔
        violations ≠ [] ∧ fault = .invalid subject (violations.map Violation.toIssue)) :
    Raises subject violations result := by
  constructor
  · simp only [herror, exists_and_left, exists_eq, and_true]
  · intro fault hfault
    obtain ⟨_, rfl⟩ := (herror fault).mp hfault
    refine ⟨_, Fault.listsIssues_invalid _ _, ?_, h.nodup_paths, h.eq_of_path_eq⟩
    rw [List.forall₂_map_right_iff, List.forall₂_same]
    intro violation _
    exact violation.reportedAs_toIssue

theorem map_orFault_eq_error_iff {checked : Checked α} {f : α → β} {subject : String}
    (fault : Fault) :
    f <$> checked.orFault subject = .error fault ↔
      checked.violations ≠ [] ∧
        fault = .invalid subject (checked.violations.map Violation.toIssue) := by
  rw [← Checked.orFault_eq_error_iff]
  cases checked.orFault subject with
  | ok value =>
    change Except.ok (f value) = .error fault ↔ _
    simp
  | error other =>
    change Except.error other = .error fault ↔ _
    simp

/--
Each schema reports every violation of a value exactly once, where it is and in the order in which
positions are visited, and the parsers list the same violations, in the words for each of them.
-/
theorem violations_reported_in_order (input : Option Json) :
    Schema.type.Reported input (required WrittenType.read input).violations ∧
      Schema.signature.Reported input (required WrittenSignature.read input).violations ∧
      Schema.binding.Reported input (required readBinding input).violations ∧
      Schema.entry.Reported input (required Entry.read input).violations ∧
      Schema.manifest.Reported input (required Manifest.read input).violations ∧
      Raises "type descriptor" (required WrittenType.read input).violations (parseType input) ∧
      Raises "signature" (required WrittenSignature.read input).violations
        (parseSignature input) ∧
      Raises "channel binding" (required readBinding input).violations (parseBinding input) ∧
      Raises "manifest" (required Manifest.read input).violations (parseManifest input) := by
  have htype := (reports_required input fun value _ => reports_readType value).reported
  have hsignature := (reports_required input fun value _ => reports_readSignature value).reported
  have hbinding := (reports_required input fun value _ => reports_readBinding value).reported
  have hentry := (reports_required input fun value _ => reports_readEntry value).reported
  have hmanifest := (reports_required input fun value _ => reports_readManifest value).reported
  refine ⟨htype, hsignature, hbinding, hentry, hmanifest, ?_, ?_, ?_, ?_⟩
  · apply htype.raises
    unfold parseType
    rw [construct_eq_map WrittenType.build_eq_toDescriptor]
    apply map_orFault_eq_error_iff
  · apply hsignature.raises
    unfold parseSignature
    rw [construct_eq_map WrittenSignature.build_eq_toSignature]
    apply map_orFault_eq_error_iff
  · apply hbinding.raises
    intro fault
    apply Checked.orFault_eq_error_iff
  · apply hmanifest.raises
    unfold parseManifest
    rw [construct_eq_map Manifest.build_eq_toDeclarations]
    apply map_orFault_eq_error_iff

end Mediation.Metadata

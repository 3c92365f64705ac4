import Mediation.Metadata.Violation
import Mediation.Text.Blank

/-!
This module contains the schemas of metadata as data, apart from any reader: what each position of a
value has to be by itself, which positions violate that, and in which order positions are visited.
-/

namespace Mediation.Metadata

/--
What the value at a position has to be.
-/
inductive Schema where
  | kind
  | text
  | nonemptyText
  | channel
  | array (element : Schema)
  | type
  | signature
  | binding
  | entry

/--
Whether there has to be a value at a position.
-/
inductive Presence where
  | required
  | optional
  /-- A value may be left out, and null stands for a value that is left out. -/
  | nullable
  deriving DecidableEq

namespace Schema

def manifest : Schema :=
  .array .entry

/--
The fields that a schema names, in the order in which they are visited.
-/
def fields : Schema → List (String × Presence × Schema)
  | type =>
    [("kind", .required, .kind), ("name", .optional, .nonemptyText),
      ("typeArguments", .optional, .array .type)]
  | signature =>
    [("identity", .required, .nonemptyText), ("returns", .required, .type),
      ("parameters", .optional, .array .type)]
  | binding => [("channel", .required, .channel), ("provider", .optional, .text)]
  | entry =>
    [("signature", .required, .signature), ("incoming", .nullable, .binding),
      ("outgoing", .nullable, .binding)]
  | kind | text | nonemptyText | channel | array _ => []

@[simp]
def expected : Schema → Expected
  | kind => .kind
  | text | nonemptyText | channel => .string
  | array _ => .array
  | type | signature | binding | entry => .object

end Schema

/--
The JSON type of the values that can be what is expected.
-/
@[simp]
def Expected.tag : Expected → Json.Tag
  | string | kind => .string
  | array => .array
  | object => .object

/--
What a value violates by itself, whatever lies inside it.
-/
inductive Violates : Schema → Json → Cause → Prop where
  | mismatch {schema : Schema} {value : Json} :
    value.tag ≠ schema.expected.tag →
      Violates schema value (.mismatch schema.expected value.tag)
  | unknownKind {text : String} :
    (∀ kind : Kind, text ≠ kind.name) → Violates .kind (.string text) (.unknownKind text)
  | emptyText : Violates .nonemptyText (.string "") .emptyText
  | blankChannel {text : String} :
    (∀ c ∈ text.toList, Text.isBlank c) → Violates .channel (.string text) .blankChannel

/--
What the position at the end of a path violates by itself. Every position on the way has the right
JSON type, and the path goes on along a field of its schema or an element of its array.
-/
inductive ViolatedAt : Presence → Schema → Option Json → Path → Cause → Prop where
  | missing {schema : Schema} : ViolatedAt .required schema none [] .missing
  | here {presence : Presence} {schema : Schema} {value : Json} {cause : Cause} :
    ¬(presence = .nullable ∧ value = .null) → Violates schema value cause →
      ViolatedAt presence schema (some value) [] cause
  | field {presence inner : Presence} {schema target : Schema} {fields : List (String × Json)}
    {key : String} {path : Path} {cause : Cause} :
    (key, inner, target) ∈ schema.fields →
    ViolatedAt inner target (fields.lookup key) path cause →
      ViolatedAt presence schema (some (.object fields)) (.field key :: path) cause
  | element {presence : Presence} {schema : Schema} {values : List Json} {value : Json}
    {position : Nat} {path : Path} {cause : Cause} :
    values[position]? = some value →
    ViolatedAt .required schema (some value) path cause →
      ViolatedAt presence (.array schema) (some (.array values)) (.index position :: path) cause

/--
The order in which positions are visited: the fields of an object in the order of its schema, the
elements of an array in the order of their positions, and what lies inside one of them before the
next one.
-/
inductive Precedes : Schema → Path → Path → Prop where
  | fields {schema : Schema} {first second : String × Presence × Schema} {left right : Path} :
    [first, second].Sublist schema.fields →
      Precedes schema (.field first.1 :: left) (.field second.1 :: right)
  | elements {schema : Schema} {first second : Nat} {left right : Path} :
    first < second →
      Precedes (.array schema) (.index first :: left) (.index second :: right)
  | insideField {schema target : Schema} {presence : Presence} {key : String}
    {left right : Path} :
    (key, presence, target) ∈ schema.fields → Precedes target left right →
      Precedes schema (.field key :: left) (.field key :: right)
  | insideElement {schema : Schema} {position : Nat} {left right : Path} :
    Precedes schema left right →
      Precedes (.array schema) (.index position :: left) (.index position :: right)

theorem Schema.nodup_keys (schema : Schema) : (schema.fields.map Prod.fst).Nodup := by
  cases schema <;> simp [fields]

theorem Schema.key_ne_of_sublist {schema : Schema} {first second : String × Presence × Schema}
    (h : [first, second].Sublist schema.fields) : first.1 ≠ second.1 := by
  have hnodup := schema.nodup_keys.sublist (h.map Prod.fst)
  simpa using hnodup

theorem Precedes.ne_nil {schema : Schema} {left right : Path} (h : Precedes schema left right) :
    left ≠ [] ∧ right ≠ [] := by
  cases h <;> simp

/--
Of two positions that are visited one after the other, neither lies inside the other.
-/
theorem Precedes.not_isPrefix {schema : Schema} {left right : Path}
    (h : Precedes schema left right) : ¬left <+: right ∧ ¬right <+: left := by
  induction h with
  | fields hsublist =>
    have hne := Schema.key_ne_of_sublist hsublist
    simp [List.cons_prefix_cons, hne, hne.symm]
  | elements hlt =>
    simp only [List.cons_prefix_cons, Segment.index.injEq]
    omega
  | insideField _ _ ih => simpa [List.cons_prefix_cons] using ih
  | insideElement _ ih => simpa [List.cons_prefix_cons] using ih

end Mediation.Metadata

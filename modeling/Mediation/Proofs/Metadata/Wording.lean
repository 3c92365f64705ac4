import Mathlib.Data.List.Forall2
import Mediation.Metadata.Violation

/-!
This module contains the wording of violations, apart from what writes them: how a position is
written, what is said of each cause, and how a fault reads that lists them.
-/

namespace Mediation

inductive Json.Tag.NamedAs : Json.Tag → String → Prop where
  | null : NamedAs .null "null"
  | bool : NamedAs .bool "boolean"
  | number : NamedAs .number "number"
  | string : NamedAs .string "string"
  | array : NamedAs .array "array"
  | object : NamedAs .object "object"

theorem Json.Tag.namedAs_name (tag : Json.Tag) : tag.NamedAs tag.name := by
  cases tag <;> constructor

/--
An issue as a message shows it. What is wrong with a value as a whole has no place in it.
-/
inductive Issue.ShownAs : Issue → String → Prop where
  | whole (message : String) : ShownAs { path := "", message } message
  | inside {path : String} (message : String) :
    path ≠ "" → ShownAs { path, message } (path ++ ": " ++ message)

/--
What a caller can tell of a fault that lists the issues with a value.
-/
structure Fault.ListsIssues (subject : String) (issues : List Issue) (fault : Fault) : Prop where
  fault_eq : fault = .invalid subject issues
  code_eq : fault.code = "INVALID_DESCRIPTOR"
  message_eq :
    ∃ texts,
      List.Forall₂ Issue.ShownAs issues texts ∧
        fault.message = "Invalid " ++ subject ++ ": " ++ "; ".intercalate texts
  details_eq :
    fault.details =
      some
        (.object
          [("issues",
            .array <| issues.map fun issue =>
              .object [("path", .string issue.path), ("message", .string issue.message)])])

theorem Issue.shownAs_format (issue : Issue) : issue.ShownAs issue.format := by
  rcases issue with ⟨path, message⟩
  unfold format
  split
  next hpath =>
    cases hpath
    exact .whole message
  next hpath => exact .inside message hpath

theorem Fault.listsIssues_invalid (subject : String) (issues : List Issue) :
    (invalid subject issues).ListsIssues subject issues := by
  constructor
  · rfl
  · rfl
  · refine ⟨issues.map Issue.format, ?_, rfl⟩
    rw [List.forall₂_map_right_iff, List.forall₂_same]
    intro issue _
    exact issue.shownAs_format
  · rfl

namespace Metadata

inductive Segment.WrittenAs : Segment → String → Prop where
  | field (key : String) : WrittenAs (.field key) key
  | index (position : Nat) : WrittenAs (.index position) (toString position)

/--
A position as it is written: the steps to it, joined by dots.
-/
inductive Path.WrittenAs : Path → String → Prop where
  | joined {path : Path} {texts : List String} :
    List.Forall₂ Segment.WrittenAs path texts → WrittenAs path (".".intercalate texts)

inductive Expected.NamedAs : Expected → String → Prop where
  | string : NamedAs .string "string"
  | array : NamedAs .array "array"
  | object : NamedAs .object "object"
  | kind :
    NamedAs .kind
      ("'payload' | 'void' | 'envelope' | 'async' | 'stream' | 'stream-builder' | 'processor' | " ++
        "'processor-builder' | 'subscriber'")

inductive Cause.WordedAs : Cause → String → Prop where
  | missing : WordedAs .missing "Required"
  | mismatch {expected : Expected} {received : Json.Tag} {expectedName receivedName : String} :
    expected.NamedAs expectedName → received.NamedAs receivedName →
      WordedAs (.mismatch expected received)
        ("Expected " ++ expectedName ++ ", received " ++ receivedName)
  | unknownKind {kinds : String} (written : String) :
    Expected.kind.NamedAs kinds →
      WordedAs (.unknownKind written)
        ("Invalid enum value. Expected " ++ kinds ++ ", received '" ++ written ++ "'")
  | emptyText : WordedAs .emptyText "String must contain at least 1 character(s)"
  | blankChannel : WordedAs .blankChannel "channel name must not be empty"

/--
The issue that a violation is reported as.
-/
structure Violation.ReportedAs (violation : Violation) (issue : Issue) : Prop where
  path : violation.path.WrittenAs issue.path
  message : violation.cause.WordedAs issue.message

theorem Segment.writtenAs_iff {segment : Segment} {text : String} :
    segment.WrittenAs text ↔ text = segment.format := by
  constructor
  · rintro ⟨⟩ <;> rfl
  · rintro rfl
    cases segment <;> constructor

theorem Segment.forall₂_writtenAs_iff {path : Path} {texts : List String} :
    List.Forall₂ WrittenAs path texts ↔ texts = path.map format := by
  induction path generalizing texts with
  | nil => rw [List.forall₂_nil_left_iff, List.map_nil]
  | cons segment path ih =>
    simp only [List.forall₂_cons_left_iff, writtenAs_iff, ih, List.map_cons]
    constructor
    · rintro ⟨_, _, rfl, rfl, rfl⟩
      rfl
    · rintro rfl
      exact ⟨_, _, rfl, rfl, rfl⟩

theorem Path.writtenAs_iff {path : Path} {text : String} :
    path.WrittenAs text ↔ text = path.format := by
  constructor
  · rintro ⟨h⟩
    rw [Segment.forall₂_writtenAs_iff.mp h]
    rfl
  · rintro rfl
    exact .joined (Segment.forall₂_writtenAs_iff.mpr rfl)

theorem Expected.namedAs_label (expected : Expected) : expected.NamedAs expected.label := by
  cases expected <;> constructor

theorem Cause.wordedAs_message (cause : Cause) : cause.WordedAs cause.message := by
  cases cause with
  | missing => exact .missing
  | mismatch expected received => exact .mismatch expected.namedAs_label received.namedAs_name
  | unknownKind written => exact .unknownKind written Expected.kind.namedAs_label
  | emptyText => exact .emptyText
  | blankChannel => exact .blankChannel

theorem Violation.reportedAs_toIssue (violation : Violation) :
    violation.ReportedAs violation.toIssue := by
  constructor
  · exact Path.writtenAs_iff.mpr rfl
  · exact violation.cause.wordedAs_message

end Metadata

end Mediation

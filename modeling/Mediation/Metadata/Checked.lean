import Mediation.Metadata.Violation

/-!
This module contains the results of checking metadata. Checks of independent parts are combined so
that the violations of all parts are kept, in the order of the parts.
-/

namespace Mediation.Metadata

/--
A value that was read, or the violations that kept it from being read, of which there is at least
one.
-/
inductive Checked (α : Type) where
  | valid (value : α)
  | invalid (first : Violation) (rest : List Violation)

namespace Checked

def violations : Checked α → List Violation
  | valid _ => []
  | invalid first rest => first :: rest

/--
The single violation that a position commits by itself.
-/
def violating (cause : Cause) : Checked α :=
  invalid { path := [], cause } []

def map (f : α → β) : Checked α → Checked β
  | valid value => valid (f value)
  | invalid first rest => invalid first rest

/--
Apply a function that was read to an argument that was read, keeping the violations of both.
-/
def seq (f : Checked (α → β)) (argument : Unit → Checked α) : Checked β :=
  match f, argument () with
  | valid f, valid value => valid (f value)
  | valid _, invalid first rest => invalid first rest
  | invalid first rest, argument => invalid first (rest ++ argument.violations)

instance : Applicative Checked where
  map := map
  pure := valid
  seq := seq

/--
Read the violations from one step further out.
-/
def under (segment : Segment) : Checked α → Checked α
  | valid value => valid value
  | invalid first rest => invalid (first.under segment) (rest.map (·.under segment))

def orFault (subject : String) : Checked α → Except Fault α
  | valid value => .ok value
  | invalid first rest => .error (.invalid subject ((first :: rest).map Violation.toIssue))

@[simp]
theorem violations_valid (value : α) : (valid value).violations = [] := rfl

@[simp]
theorem violations_pure (value : α) : (pure value : Checked α).violations = [] := rfl

@[simp]
theorem violations_violating (cause : Cause) :
    (violating cause : Checked α).violations = [{ path := [], cause }] := rfl

@[simp]
theorem violations_map (f : α → β) (checked : Checked α) :
    (f <$> checked).violations = checked.violations := by
  cases checked <;> rfl

@[simp]
theorem violations_seq (f : Checked (α → β)) (argument : Checked α) :
    (f <*> argument).violations = f.violations ++ argument.violations := by
  cases f <;> cases argument <;> rfl

@[simp]
theorem violations_under (segment : Segment) (checked : Checked α) :
    (checked.under segment).violations = checked.violations.map (·.under segment) := by
  cases checked <;> rfl

@[simp]
theorem pure_eq_valid_iff {value other : α} :
    (pure value : Checked α) = valid other ↔ value = other := by
  change valid value = valid other ↔ _
  simp

@[simp]
theorem violating_ne_valid (cause : Cause) (value : α) : violating cause ≠ valid value := by
  nofun

@[simp]
theorem map_eq_valid_iff {f : α → β} {checked : Checked α} {result : β} :
    f <$> checked = valid result ↔ ∃ value, checked = valid value ∧ f value = result := by
  cases checked with
  | valid value =>
    change valid (f value) = valid result ↔ _
    simp
  | invalid first rest =>
    change invalid first rest = valid result ↔ _
    simp

@[simp]
theorem seq_eq_valid_iff {f : Checked (α → β)} {argument : Checked α} {result : β} :
    f <*> argument = valid result ↔
      ∃ g, f = valid g ∧ ∃ value, argument = valid value ∧ g value = result := by
  cases f with
  | valid g =>
    -- A function that was read is applied as one that is given.
    have hmap : valid g <*> argument = g <$> argument := by
      cases argument <;> rfl
    rw [hmap, map_eq_valid_iff]
    simp
  | invalid first rest =>
    change invalid first (rest ++ argument.violations) = valid result ↔ _
    simp

theorem map₂_eq_valid_iff {f : α → β → γ} {a : Checked α} {b : Checked β} {result : γ} :
    f <$> a <*> b = valid result ↔
      ∃ x y, a = valid x ∧ b = valid y ∧ f x y = result := by
  simp only [seq_eq_valid_iff, map_eq_valid_iff]
  constructor
  · rintro ⟨_, ⟨x, ha, rfl⟩, y, hb, rfl⟩
    exact ⟨x, y, ha, hb, rfl⟩
  · rintro ⟨x, y, ha, hb, rfl⟩
    exact ⟨_, ⟨x, ha, rfl⟩, y, hb, rfl⟩

theorem map₃_eq_valid_iff {f : α → β → γ → δ} {a : Checked α} {b : Checked β} {c : Checked γ}
    {result : δ} :
    f <$> a <*> b <*> c = valid result ↔
      ∃ x y z, a = valid x ∧ b = valid y ∧ c = valid z ∧ f x y z = result := by
  rw [seq_eq_valid_iff]
  constructor
  · rintro ⟨g, hg, z, hc, rfl⟩
    obtain ⟨x, y, ha, hb, rfl⟩ := map₂_eq_valid_iff.mp hg
    exact ⟨x, y, z, ha, hb, hc, rfl⟩
  · rintro ⟨x, y, z, ha, hb, hc, rfl⟩
    exact ⟨f x y, map₂_eq_valid_iff.mpr ⟨x, y, ha, hb, rfl⟩, z, hc, rfl⟩

@[simp]
theorem under_eq_valid_iff {segment : Segment} {checked : Checked α} {value : α} :
    checked.under segment = valid value ↔ checked = valid value := by
  cases checked <;> simp [under]

theorem orFault_eq_ok_iff {subject : String} {checked : Checked α} {value : α} :
    checked.orFault subject = .ok value ↔ checked = valid value := by
  cases checked <;> simp [orFault]

theorem orFault_eq_error_iff {subject : String} {checked : Checked α} {fault : Fault} :
    checked.orFault subject = .error fault ↔
      checked.violations ≠ [] ∧
        fault = .invalid subject (checked.violations.map Violation.toIssue) := by
  cases checked <;> simp [orFault, violations, eq_comm]

end Checked

def required (read : Json → Checked α) : Option Json → Checked α
  | some value => read value
  | none => .violating .missing

def optional (read : Json → Checked α) : Option Json → Checked (Option α)
  | some value => some <$> read value
  | none => pure none

@[simp]
theorem required_eq_valid_iff {read : Json → Checked α} {input : Option Json} {value : α} :
    required read input = .valid value ↔ ∃ json, input = some json ∧ read json = .valid value := by
  cases input <;> simp [required]

theorem optional_eq_valid_none_iff {read : Json → Checked α} {input : Option Json} :
    optional read input = .valid none ↔ input = none := by
  cases input <;> simp [optional]

theorem optional_eq_valid_some_iff {read : Json → Checked α} {input : Option Json} {value : α} :
    optional read input = .valid (some value) ↔
      ∃ json, input = some json ∧ read json = .valid value := by
  cases input <;> simp [optional]

def field (fields : List (String × Json)) (key : String) (read : Option Json → Checked α) :
    Checked α :=
  (read (fields.lookup key)).under (.field key)

@[simp]
theorem field_eq_valid_iff {fields : List (String × Json)} {key : String}
    {read : Option Json → Checked α} {value : α} :
    field fields key read = .valid value ↔ read (fields.lookup key) = .valid value := by
  simp [field]

/--
Read the elements of an array, the first of which has the given position.
-/
def readEachFrom (position : Nat) (read : Json → Checked α) : List Json → Checked (List α)
  | [] => pure []
  | value :: values =>
    List.cons <$> (read value).under (.index position) <*>
      readEachFrom (position + 1) read values

def readEach (read : Json → Checked α) : Json → Checked (List α)
  | .array values => readEachFrom 0 read values
  | value => .violating (.mismatch .array value.tag)

def readText : Json → Checked String
  | .string text => pure text
  | value => .violating (.mismatch .string value.tag)

theorem readText_eq_valid_iff {value : Json} {text : String} :
    readText value = .valid text ↔ value = .string text := by
  cases value <;> simp [readText]

/--
Check that a text has at least one character.
-/
def atLeastOne (cause : Cause) (text : String) : Checked String :=
  if text.length < 1 then .violating cause else pure text

theorem atLeastOne_eq_ite (cause : Cause) (text : String) :
    atLeastOne cause text = if text = "" then .violating cause else pure text := by
  unfold atLeastOne
  simp only [Nat.lt_one_iff, String.length_eq_zero_iff]

theorem atLeastOne_eq_valid_iff {cause : Cause} {text read : String} :
    atLeastOne cause text = .valid read ↔ text ≠ "" ∧ text = read := by
  rw [atLeastOne_eq_ite]
  split
  next h => simp [h]
  next h => simp [h]

def readNonemptyText : Json → Checked String
  | .string text => atLeastOne .emptyText text
  | value => .violating (.mismatch .string value.tag)

theorem readNonemptyText_eq_valid_iff {value : Json} {text : String} :
    readNonemptyText value = .valid text ↔ value = .string text ∧ text ≠ "" := by
  cases value with
  | string written =>
    rw [readNonemptyText, atLeastOne_eq_valid_iff, Json.string.injEq]
    constructor
    · rintro ⟨hne, rfl⟩
      exact ⟨rfl, hne⟩
    · rintro ⟨rfl, hne⟩
      exact ⟨hne, rfl⟩
  | _ => simp [readNonemptyText]

end Mediation.Metadata

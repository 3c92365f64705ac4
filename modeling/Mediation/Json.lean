import Mediation.Decimal

/-!
This module contains the JSON values that metadata is written in and that error details are reported
in. An object keeps its fields as a list, because the order in which they are written is never
significant and a key is only ever looked up.
-/

namespace Mediation

/--
A JSON value. A number is `mantissa * 10 ^ (- exponent)`.
-/
inductive Json where
  | null
  | bool (value : Bool)
  | number (mantissa : Int) (exponent : Nat)
  | string (text : String)
  | array (elements : List Json)
  | object (fields : List (String × Json))
  deriving Inhabited

namespace Json

/--
The kinds of JSON value that a message about an unexpected value tells apart.
-/
inductive Tag where
  | null
  | bool
  | number
  | string
  | array
  | object
  deriving DecidableEq

def Tag.name : Tag → String
  | .null => "null"
  | .bool => "boolean"
  | .number => "number"
  | .string => "string"
  | .array => "array"
  | .object => "object"

def tag : Json → Tag
  | null => .null
  | bool _ => .bool
  | number _ _ => .number
  | string _ => .string
  | array _ => .array
  | object _ => .object

/--
The number `mantissa * 10 ^ (- exponent)`, as far as numbers are precise.
-/
def ofDecimal (mantissa : Int) (exponent : Nat) : Json :=
  let decimal := Decimal.shortest { mantissa := mantissa.natAbs, exponent }
  .number (mantissa.sign * decimal.mantissa) decimal.exponent

def count (n : Nat) : Json :=
  .number n 0

def texts (fields : List (String × String)) : Json :=
  .object <| fields.map fun (key, text) => (key, .string text)

/--
An object of the fields that are present, in the order in which they are given.
-/
def record (fields : List (String × Option Json)) : Json :=
  .object <| fields.filterMap fun (key, value?) => value?.map (key, ·)

theorem sizeOf_lt_of_mem_array {elements : List Json} {element : Json} (h : element ∈ elements) :
    sizeOf element < sizeOf (array elements) := by
  have := List.sizeOf_lt_of_mem h
  rw [array.sizeOf_spec]
  omega

theorem sizeOf_lt_of_lookup {fields : List (String × Json)} {key : String} {value : Json}
    (h : fields.lookup key = some value) : sizeOf value < sizeOf (object fields) := by
  obtain ⟨before, behind, rfl, _⟩ := List.lookup_eq_some_iff.mp h
  have hmem : (key, value) ∈ before ++ (key, value) :: behind := by simp
  have := List.sizeOf_lt_of_mem hmem
  rw [Prod.mk.sizeOf_spec] at this
  rw [object.sizeOf_spec]
  omega

end Json

end Mediation

import Mediation.Descriptor.Basic

/-!
This module contains the text form of a type descriptor, as messages show it.
-/

namespace Mediation.Descriptor

mutual

/--
Write a type the way it is declared: its name, followed by its type arguments in angle brackets
unless it is raw.
-/
def format : Descriptor → String
  | ⟨_, name, []⟩ => name
  | ⟨_, name, argument :: arguments⟩ =>
    name ++ "<" ++ ", ".intercalate (format argument :: formatEach arguments) ++ ">"

def formatEach : List Descriptor → List String
  | [] => []
  | type :: types => type.format :: formatEach types

end

theorem formatEach_eq_map (types : List Descriptor) : formatEach types = types.map format := by
  induction types with
  | nil => rfl
  | cons type types ih => simp [formatEach, ih]

end Mediation.Descriptor

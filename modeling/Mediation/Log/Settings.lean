import Mediation.Log.Level

/-!
This module contains the choice of a threshold from the settings of a process, which name a level or
imply one. The names of the levels that a record can have are read without regard to case.
-/

namespace Mediation.Log

/--
The settings of a process that decide on its threshold.
-/
structure Settings where
  mode : Option String
  /-- The name of the threshold, if it is asked for explicitly. -/
  level : Option String

/--
Why a name yields no threshold.
-/
inductive LevelError where
  /-- Nothing is listed under the name. -/
  | unlisted (name : String)
  /-- Something is listed under the name, but it is no level. -/
  | notALevel
  deriving DecidableEq

def LevelError.message : LevelError → String
  | unlisted name => "default level:" ++ name ++ " must be included in custom levels"
  | notALevel => "unknown level undefined"

/--
The names under which every table of names lists something, whatever the table is of.
-/
def inheritedNames : List String :=
  ["constructor", "__defineGetter__", "__defineSetter__", "hasOwnProperty", "__lookupGetter__",
    "__lookupSetter__", "isPrototypeOf", "propertyIsEnumerable", "toString", "valueOf", "__proto__",
    "toLocaleString"]

namespace Level

/--
The names that the table of the levels of records lists. A record cannot be silent, so that the
silent level is not among them.
-/
def listedNames : List String :=
  ((all.filter (· ≠ .silent)).map name) ++ inheritedNames

/--
The lower case form of a name if it is listed, and the name as it is written otherwise.
-/
def foldName (written : String) : String :=
  let lower := String.ofList (written.toList.map Char.toLower)
  if listedNames.contains lower then lower else written

/--
Read the name of the level that the logger of a component takes over.
-/
def read (written : String) : Except LevelError Level :=
  let name := foldName written
  match ofName? name with
  | some level => .ok level
  | none => if inheritedNames.contains name then .error .notALevel else .error (.unlisted name)

/--
Read the name of the threshold of a logger that no other logger takes over. What is listed without
being a level is a threshold that no record reaches.
-/
def readThreshold (written : String) : Except LevelError Level :=
  match read written with
  | .error .notALevel => .ok .silent
  | result => result

theorem read_name (level : Level) : read level.name = .ok level := by
  cases level <;> rfl

theorem name_mem_listedNames {level : Level} (h : level ≠ .silent) : level.name ∈ listedNames := by
  cases level with
  | silent => exact absurd rfl h
  | _ => decide

/--
The name of a level that a record can have is read in whatever case it is written.
-/
theorem read_of_toLower {written : String} {level : Level} (hlevel : level ≠ .silent)
    (h : String.ofList (written.toList.map Char.toLower) = level.name) :
    read written = .ok level := by
  have hfold : foldName written = level.name := by
    unfold foldName
    rw [h, if_pos (List.contains_iff_mem.mpr (name_mem_listedNames hlevel))]
  unfold read
  rw [hfold]
  dsimp only
  rw [ofName?_name]

example : read "eRRoR" = .ok .error := by rfl

end Level

namespace Settings

/--
The threshold of a mode: nothing is kept under test, debug records are dropped in production.
-/
def defaultLevel (settings : Settings) : Level :=
  if settings.mode = some "test" then
    .silent
  else if settings.mode = some "production" then
    .info
  else
    .debug

/--
The threshold that the settings ask for. An explicit name takes precedence over the mode, even if it
is empty.
-/
def threshold (settings : Settings) : Except LevelError Level :=
  match settings.level with
  | none => .ok settings.defaultLevel
  | some name => Level.read name

end Settings

end Mediation.Log

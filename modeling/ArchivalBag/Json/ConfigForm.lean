import ArchivalBag.Config
import ArchivalBag.Json.BagForm

/-!
# Configurations in JSON

A configuration is a record of which every field may be missing.

* `Config.toJson`, `Config.ofJson?`: the written form, and what is read.
-/

namespace ArchivalBag

/-- The level in JSON. -/
def Log.Level.ofJson? (j : Json) : Option Log.Level :=
  match j.case? with
  | some (name, none) => Log.Level.ofName? name
  | some (name, some .null) => Log.Level.ofName? name
  | _ => none

namespace Json

/-- The path of a string. -/
def path? (j : Json) : Option Path :=
  j.text?.map Path.mk

/-- What may be `null`. -/
def nullable? {α : Type} (read : Json → Option α) : Json → Option (Option α)
  | .null => some none
  | j => (read j).map some

/-- The truth value. -/
def bool? : Json → Option Bool
  | .bool b => some b
  | _ => none

/-- A field that stands for `default` if it is missing. -/
def orDefault {α : Type} (default : α) (read : Json → Option α) : Option Json → Option α
  | none => some default
  | some j => read j

end Json

namespace Config

/-- A configuration in JSON. -/
def toJson (c : Config) : Json :=
  .ofFields [(levelField, .ofText c.level.name),
    (logFileField, (c.logFile.map fun p => Json.ofText p.text).getD .null),
    (verboseField, .bool c.verbose)]

/-- The configuration in JSON. -/
def ofJson? (j : Json) : Option Config := do
  match ← j.fields? [levelField, logFileField, verboseField] with
  | [level, logFile, verbose] =>
    pure {
      level := ← Json.orDefault default.level Log.Level.ofJson? level
      logFile := ← Json.orDefault default.logFile (Json.nullable? Json.path?) logFile
      verbose := ← Json.orDefault default.verbose Json.bool? verbose }
  | _ => none

end Config

end ArchivalBag

import ArchivalBag.Log.Event

/-!
# The configuration of a reader

* `Config`: what can be configured: how much is logged, and where.
* `Config.effectiveLevel`: how much is logged in effect.
-/

namespace ArchivalBag

/-- The configuration of a reader. -/
structure Config where
  /-- How much is logged. -/
  level : Log.Level
  /-- The file to log to, in place of the standard output. -/
  logFile : Option Path
  /-- Everything of interest is logged, whatever the level. -/
  verbose : Bool
  deriving DecidableEq, Repr

namespace Config

/-- The configuration of a reader that is not configured. -/
def default : Config where
  level := .info
  logFile := none
  verbose := false

/-- How much is logged in effect. -/
def effectiveLevel (c : Config) : Log.Level :=
  if c.verbose then .debug else c.level

/-- The name of the field with the level. -/
def levelField : String := "log_level"

/-- The name of the field with the file to log to. -/
def logFileField : String := "log_file"

/-- The name of the field that asks for everything of interest. -/
def verboseField : String := "verbose"

end Config

end ArchivalBag

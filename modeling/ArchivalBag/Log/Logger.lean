import ArchivalBag.FileTree
import ArchivalBag.Log.Filter
import ArchivalBag.Text.Hex

/-!
# Loggers

A process has at most one logger, which stays. A logger writes the events its filter lets through to
the standard output or to a file. The file is made, and emptied, before the logger is installed.

* `Session`: the files, and the logger if there is one.
* `Session.install`: asks for a logger.
* `Session.logged`: the events of a list that are logged.
* `Event.line`: an event on the standard output.
-/

namespace ArchivalBag.Log

/-- Where events are written. -/
inductive Sink where
  | standardOutput
  | file (path : Path)
  deriving DecidableEq, Repr

/-- A logger. -/
structure Logger where
  filter : Filter
  sink : Sink
  deriving DecidableEq, Repr

/-- The files a process sees, and its logger. -/
structure Session where
  files : FileTree
  logger : Option Logger

namespace Session

/-- Installs a logger, if there is none. -/
def installLogger (l : Logger) (s : Session) : Except ConfigFault Unit × Session :=
  match s.logger with
  | some _ => (.error .loggerInstalled, s)
  | none => (.ok (), { s with logger := some l })

/-- Asks for the logger of a configuration; `asked` is the filter the environment asks for. -/
def install (c : Config) (asked : Option String) (s : Session) : Except ConfigFault Unit × Session :=
  let filter := Filter.choose c asked
  match c.logFile with
  | none => s.installLogger ⟨filter, .standardOutput⟩
  | some p =>
    match s.files.store p [] with
    | .error f => (.error (.noLogFile f), s)
    | .ok t => { s with files := t }.installLogger ⟨filter, .file p⟩

/-- The events of a list that are logged. -/
def logged (s : Session) (es : List Event) : List Event :=
  match s.logger with
  | none => []
  | some l => es.filter l.filter.enables

/-- The events of a list that are written to the standard output. -/
def shown (s : Session) (es : List Event) : List Event :=
  match s.logger with
  | some ⟨_, .standardOutput⟩ => s.logged es
  | _ => []

/-- The events of a list that are written to a file. -/
def filed (s : Session) (es : List Event) : List Event :=
  match s.logger with
  | some ⟨_, .file _⟩ => s.logged es
  | _ => []

end Session

/-! ## The standard output -/

/-- A character on the standard output. Those that a terminal may take for a command are written
out. -/
def safeChar (c : Char) : List Char :=
  let n := c.toNat
  let digits := [Text.smallHexDigit (n / 16), Text.smallHexDigit (n % 16)]
  if n = 0x07 ∨ n = 0x08 ∨ n = 0x0C ∨ n = 0x1B ∨ n = 0x7F then '\\' :: 'x' :: digits
  else if 0x80 ≤ n ∧ n ≤ 0x9F then '\\' :: 'u' :: '\x7b' :: (digits ++ ['\x7d'])
  else [c]

/-- An event on the standard output. -/
def Event.line (e : Event) : String :=
  e.level.label ++ " " ++ e.target ++ ": " ++ String.ofList (e.message.toList.flatMap safeChar)

end ArchivalBag.Log

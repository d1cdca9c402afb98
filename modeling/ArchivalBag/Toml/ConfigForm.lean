import ArchivalBag.Config
import ArchivalBag.Toml.Reader

/-!
# Configurations in TOML

A configuration is a document with a line for each field; the file to log to has no line if there is
none. What is missing takes its default, and other entries do not count.

* `Config.toToml`, `Config.ofToml?`: the written form, and what is read.
-/

namespace ArchivalBag

namespace Toml

/-- A line with a key and its value. -/
def line (key : String) (value : List Char) : List Char :=
  key.toList ++ ' ' :: '=' :: ' ' :: (value ++ ['\n'])

/-- The written form of a string. -/
def textOfString (s : String) : List Char :=
  Quoted.write s.toList

/-- The written form of a truth value. -/
def textOfBool (b : Bool) : List Char :=
  if b then ['t', 'r', 'u', 'e'] else ['f', 'a', 'l', 's', 'e']

/-- An entry that stands for `default` if it is missing. -/
def orDefault {α : Type} (default : α) (read : Toml → Option α) : Option Toml → Option α
  | none => some default
  | some v => read v

end Toml

/-- The level in TOML. -/
def Log.Level.ofToml? (v : Toml) : Option Log.Level :=
  v.case?.bind Log.Level.ofName?

namespace Config

open Toml

/-- The line with the file to log to, if there is one. -/
def logFileLine : Option Path → List Char
  | none => []
  | some p => line logFileField (textOfString p.text)

/-- A configuration in TOML. -/
def toToml (c : Config) : String :=
  String.ofList <|
    line levelField (textOfString c.level.name) ++ logFileLine c.logFile ++
      line verboseField (textOfBool c.verbose)

/-- The configuration in the entries of a document. -/
def ofEntries? (es : List (String × Toml)) : Option Config := do
  pure {
    level := ← orDefault default.level Log.Level.ofToml? (find? levelField es)
    logFile := ← orDefault default.logFile (fun v => v.text?.map fun s => some ⟨s⟩)
      (find? logFileField es)
    verbose := ← orDefault default.verbose Toml.bool? (find? verboseField es) }

/-- The configuration in TOML. -/
def ofToml? (text : String) : Option Config :=
  (Toml.parse? text).bind ofEntries?

end Config

end ArchivalBag

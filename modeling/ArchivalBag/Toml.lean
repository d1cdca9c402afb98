/-!
# TOML

The values of TOML as far as a reader tells them apart: of numbers, dates and times only the written
form is kept.

* `Toml`: the values.
-/

namespace ArchivalBag

/-- A value of TOML. -/
inductive Toml where
  | string (s : String)
  | bool (b : Bool)
  /-- A number, a date or a time as it is written. -/
  | literal (text : List Char)
  | array (items : List Toml)
  | table (entries : List (String × Toml))
  deriving Inhabited

namespace Toml

/-- The value of a key, if the key is there. -/
def find? (key : String) (entries : List (String × Toml)) : Option Toml :=
  (entries.find? fun e => e.1 == key).map (·.2)

/-- The text of a string. -/
def text? : Toml → Option String
  | string s => some s
  | _ => none

/-- The truth value. -/
def bool? : Toml → Option Bool
  | bool b => some b
  | _ => none

/-- The value holds nothing. -/
def isEmpty : Toml → Bool
  | array [] => true
  | table [] => true
  | _ => false

/-- The name of a case without content. A case is written as its name or as a table with one entry
that holds nothing. -/
def case? : Toml → Option String
  | string s => some s
  | table [(k, v)] => if v.isEmpty then some k else none
  | _ => none

end Toml

end ArchivalBag

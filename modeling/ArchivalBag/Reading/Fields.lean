import ArchivalBag.Metadata
import ArchivalBag.Reading
import ArchivalBag.Text.Lines
import ArchivalBag.Text.Split

/-!
# Files of fields

A file of fields has one key per line, with a delimiter between the key and its value. A line that
starts with a blank continues the value of the last key; all of it belongs to the value, after a line
feed. Only the first delimiter of a line counts, and a key may not be empty.

* `parseFields`: the fields of the lines of a file.
* `keyLine?`: the key and the value of a line.
-/

namespace ArchivalBag

open Text

/-- The delimiter in the files of a bag. -/
def tagDelimiter : String := ":"

/-- A line that continues the value of the last key. -/
def isFold : List Char → Bool
  | [] => false
  | c :: _ => isBlank c

/-- The key and the value of a line, both without the blanks around them. -/
def keyLine? (delimiter line : List Char) : Option (String × String) :=
  match splitOnce? delimiter line with
  | none => none
  | some (k, v) =>
    if (trim k).isEmpty then none else some (String.ofList (trim k), String.ofList (trim v))

/-- Where a line stands in a file. -/
def Text.Line.context (l : Line) (source : Path) : LineContext :=
  ⟨source, l.number, String.ofList l.text⟩

/-- The fields after some further lines, when `last` is the last key. -/
def parseFieldLines (source : Path) (delimiter : List Char) (fields : Metadata)
    (last : Option String) : List Line → Reading Metadata
  | [] => pure fields
  | l :: ls =>
    if isFold l.text then
      match last with
      | none => .fail (.malformedKeyValueLine (l.context source))
      | some k => do
        .note (.foldFound k)
        parseFieldLines source delimiter (fields.appendLine k (String.ofList l.text)) last ls
    else
      match keyLine? delimiter l.text with
      | none => .fail (.malformedKeyValueLine (l.context source))
      | some (k, v) => do
        .note (.keyFound k v source)
        parseFieldLines source delimiter (fields.insert k v) (some k) ls

/-- The fields of the lines of a file. The path of the file only serves to say where a line stands. -/
def parseFields (source : Path) (delimiter : String) (lines : List String) : Reading Metadata :=
  parseFieldLines source delimiter.toList .empty none (contentLines lines)

end ArchivalBag

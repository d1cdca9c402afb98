import ArchivalBag.Error

/-!
# What is logged

The events of reading a bag. Each has a level, a target that names the part of the reader it comes
from, and a message.

* `Log.Level`: the levels, from errors only to everything.
* `Log.Event`: the events.
* `Log.Event.level`, `Log.Event.target`, `Log.Event.message`: how an event is logged.
-/

namespace ArchivalBag.Log

/-- How much is logged, or how important an event is. -/
inductive Level where
  | error
  | warn
  | info
  | debug
  | trace
  deriving DecidableEq, Repr, Inhabited

/-- Levels count from the most important one. -/
def Level.rank : Level → Nat
  | .error => 1
  | .warn => 2
  | .info => 3
  | .debug => 4
  | .trace => 5

/-- The name of a level in small letters. -/
def Level.name : Level → String
  | .error => "error"
  | .warn => "warn"
  | .info => "info"
  | .debug => "debug"
  | .trace => "trace"

/-- The levels, from the most important one on. -/
def Level.all : List Level :=
  [.error, .warn, .info, .debug, .trace]

/-- The level of a name in small letters. -/
def Level.ofName? (s : String) : Option Level :=
  Level.all.find? fun l => l.name == s

theorem Level.ofName?_name (l : Level) : Level.ofName? l.name = some l := by
  cases l <;> decide

/-- The name of a level in capitals. -/
def Level.label (l : Level) : String :=
  l.name.toUpper

/-- What happens while a bag is read. -/
inductive Event where
  /-- The directory that holds the control files is known. -/
  | controlFiles (root directory : Path)
  | readingDeclaration
  | versionDeclared (token : String)
  | encodingDeclared (label : String)
  /-- A key line of a file of fields. -/
  | keyFound (key value : String) (file : Path)
  /-- A line that continues the value of a key. -/
  | foldFound (key : String)
  | readingManifest (file : Path)
  /-- A line of a manifest. -/
  | checksumRead (checksum : String) (path file : Path)
  | readingMetadata (file : Path)
  | readingLegacyMetadata (file : Path)
  /-- A line of a fetch list. -/
  | urlRead (item : FetchItem) (file : Path)
  /-- The bag was read; the numbers are those of its parts. -/
  | bagRead (root : Path) (version : Version) (payload tag fields items : Nat)
  /-- The bag was not read. -/
  | bagFailed (root : Path) (error : BagError)
  deriving DecidableEq, Repr

namespace Event

/-- How important an event is. -/
def level : Event → Level
  | bagRead .. => .info
  | bagFailed .. => .warn
  | _ => .debug

/-- The part of the reader an event comes from. -/
def target : Event → String
  | controlFiles .. => "bagit::reader"
  | readingDeclaration => "bagit::reader::declaration"
  | versionDeclared _ => "bagit::reader::declaration"
  | encodingDeclared _ => "bagit::reader::declaration"
  | keyFound .. => "bagit::reader::key_value"
  | foldFound _ => "bagit::reader::key_value"
  | readingManifest _ => "bagit::reader::manifest"
  | checksumRead .. => "bagit::reader::manifest"
  | readingMetadata _ => "bagit::reader"
  | readingLegacyMetadata _ => "bagit::reader"
  | urlRead .. => "bagit::reader::fetch"
  | bagRead .. => "bagit::reader"
  | bagFailed .. => "bagit::reader"

/-- The wording of an event. -/
def message : Event → String
  | controlFiles root dir => "Control files for [" ++ root.text ++ "] are in [" ++ dir.text ++ "]"
  | readingDeclaration => "Reading bagit.txt file"
  | versionDeclared token => "BagIt-Version is [" ++ token ++ "]"
  | encodingDeclared label => "Tag-File-Character-Encoding is [" ++ label ++ "]"
  | keyFound key value file =>
    "Found key [" ++ key ++ "] value [" ++ value ++ "] in file [" ++ file.text ++ "]"
  | foldFound key => "Found an indented line - merging it to key [" ++ key ++ "]"
  | readingManifest file => "Reading manifest [" ++ file.text ++ "]"
  | checksumRead checksum path file =>
    "Read checksum [" ++ checksum ++ "] and file [" ++ path.text ++ "] from manifest [" ++
      file.text ++ "]"
  | readingMetadata file => "Reading bag metadata from [" ++ file.text ++ "]"
  | readingLegacyMetadata file => "Reading legacy bag metadata from [" ++ file.text ++ "]"
  | urlRead item file =>
    "Read URL [" ++ item.url.text ++ "] length [" ++ item.length.text ++ "] path [" ++ item.path ++
      "] from fetch file [" ++ file.text ++ "]"
  | bagRead root version payload tag fields items =>
    "Read bag [" ++ root.text ++ "]: version " ++ version.text ++ ", " ++ toString payload ++
      " payload manifest(s), " ++ toString tag ++ " tag manifest(s), " ++ toString fields ++
      " metadata field(s), " ++ toString items ++ " fetch item(s)"
  | bagFailed root e =>
    "Failed to read bag [" ++ root.text ++ "] (" ++ e.category.name ++ "): " ++ e.message

end Event

end ArchivalBag.Log

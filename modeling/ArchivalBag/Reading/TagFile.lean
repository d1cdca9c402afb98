import ArchivalBag.Encoding.TextEncoding
import ArchivalBag.FileTree
import ArchivalBag.Reading.Declaration
import ArchivalBag.Reading.FetchLines
import ArchivalBag.Reading.ManifestLines

/-!
# Tag files

The control files of a bag as they are stored: the bytes of a file become a text in some encoding, the
text becomes lines, and the lines are read by their kind.

* `readText`: the text of a file.
* `readFields`, `readDeclaration`, `readManifest`, `readFetchList`: what a file of each kind says.
-/

namespace ArchivalBag

/-- The text of a file in some encoding. -/
def readText (t : FileTree) (e : TextEncoding) (p : Path) : Reading String :=
  match t.read p with
  | .error f => .fail (.fileUnreadable p f)
  | .ok bytes =>
    match e.decodeFile? bytes with
    | some s => pure s
    | none => .fail (.fileUnreadable p (.notText e.name))

/-- The fields of a file. -/
def readFields (t : FileTree) (e : TextEncoding) (p : Path) (delimiter : String) :
    Reading Metadata := do
  let text ← readText t e p
  parseFields p delimiter (Text.lines text)

/-- The declaration in a file, which is in UTF-8 always. -/
def readDeclaration (t : FileTree) (p : Path) : Reading Declaration := do
  .note .readingDeclaration
  let fields ← readFields t .utf8 p tagDelimiter
  Declaration.ofFields p fields

/-- The name of a manifest is judged before the file is looked at; a path without a name is left to
the reader of the lines. -/
def judgeName (p : Path) : Reading Unit :=
  match p.fileName? with
  | none => pure ()
  | some name =>
    match manifestAlgorithm name with
    | .error e => .fail e
    | .ok _ => pure ()

/-- The manifest in a file, for files below `root`. -/
def readManifest (t : FileTree) (e : TextEncoding) (p root : Path) : Reading Manifest := do
  .note (.readingManifest p)
  judgeName p
  let text ← readText t e p
  parseManifest p (Text.lines text) root

/-- The items of a fetch list. -/
def readFetchList (t : FileTree) (e : TextEncoding) (p : Path) : Reading (List FetchItem) := do
  let text ← readText t e p
  parseFetchList p (Text.lines text)

end ArchivalBag

import ArchivalBag.Manifest
import ArchivalBag.Manifest.Name
import ArchivalBag.Reading
import ArchivalBag.Text.Lines
import ArchivalBag.Text.Split

/-!
# Lines of a manifest

A line of a manifest is a checksum, blanks, and the path of a file below the root of the bag. Slashes
at the front of the path are dropped, so that it does not stand for itself.

* `parseManifest`: the manifest of the lines of a file.
* `manifestLine?`: the checksum and the path of a line.
* `resolveEntry`: the path of an entry.
-/

namespace ArchivalBag

open Text

/-- The checksum and the path of a line. -/
def manifestLine? (line : List Char) : Option (List Char × List Char) :=
  match nextField? line with
  | some (checksum, path) => if path.isEmpty then none else some (checksum, path)
  | none => none

/-- The path of an entry below the root. -/
def resolveEntry (root : Path) (relative : String) : Path :=
  root.join (String.ofList (relative.toList.dropWhile (· == '/')))

/-- The algorithm told by the name of a file. -/
def manifestAlgorithm (name : String) : Except BagError String :=
  match Manifest.algorithm? name with
  | some a => .ok a
  | none => .error (.unrecognizedManifestName name)

/-- The manifest after some further lines. -/
def parseManifestLines (file root : Path) (m : Manifest) : List Line → Reading Manifest
  | [] => pure m
  | l :: ls =>
    match manifestLine? l.text with
    | none =>
      .fail (.malformedManifestLine ⟨file, l.number, String.ofList l.text⟩)
    | some (checksum, relative) => do
      let path := resolveEntry root (String.ofList relative)
      .note (.checksumRead (String.ofList checksum) path file)
      parseManifestLines file root (m.insert path (String.ofList checksum)) ls

/-- The manifest of the lines of a file. The name of the file tells the algorithm; the paths are those
of files below `root`, which is made absolute first. -/
def parseManifest (file : Path) (lines : List String) (root : Path) : Reading Manifest :=
  match file.fileName? with
  | none => .fail (.unrecognizedManifestName file.text)
  | some name =>
    match manifestAlgorithm name with
    | .error e => .fail e
    | .ok algorithm =>
      match root.absolute? with
      | none => .fail (.fileUnreadable root .emptyPath)
      | some root => parseManifestLines file root (.empty algorithm) (contentLines lines)

end ArchivalBag

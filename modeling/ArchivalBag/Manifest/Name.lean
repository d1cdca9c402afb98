import ArchivalBag.Text.Split

/-!
# Names of manifests

The name of a manifest tells which files it lists and which algorithm its checksums are by: it is
`manifest-`, the algorithm, a dot and an extension, with `tag` in front if the files are tag files.
Neither a hyphen nor a dot is part of the algorithm, and no dot is part of the extension. A directory
is searched by a looser pattern, which leaves open what is between `manifest-` and `.txt` on one line.

* `Manifest.algorithm?`: the algorithm a name tells.
* `Manifest.isCandidate`: the looser pattern.
* `Manifest.Kind.ofName`: which files a manifest of that name lists.
-/

namespace ArchivalBag.Manifest

open Text

/-- Which files a manifest lists. -/
inductive Kind where
  | payload
  | tag
  deriving DecidableEq, Repr

/-- The front of the names of tag manifests. -/
def tagFront : List Char := "tag".toList

/-- The front of the names of all manifests, but for `tag`. -/
def nameFront : List Char := "manifest-".toList

/-- Which files a manifest of this name lists. -/
def Kind.ofName (name : String) : Kind :=
  if (dropFront? tagFront name.toList).isSome then .tag else .payload

/-- What follows the front of a manifest's name. -/
def afterFront? (name : List Char) : Option (List Char) :=
  dropFront? nameFront ((dropFront? tagFront name).getD name)

/-- A character of the name of an algorithm. -/
def isAlgorithmChar (c : Char) : Bool :=
  c != '-' && c != '.'

/-- The algorithm in front of an extension. -/
def algorithmOf? (rest : List Char) : Option (List Char) :=
  let a := rest.takeWhile isAlgorithmChar
  match rest.dropWhile isAlgorithmChar with
  | '.' :: e :: r => if a.isEmpty || (e :: r).contains '.' then none else some a
  | _ => none

/-- The algorithm that a name tells, if it is the name of a manifest. -/
def algorithm? (name : String) : Option String :=
  ((afterFront? name.toList).bind algorithmOf?).map String.ofList

/-- The extension of the names that are searched for. -/
def listedExtension : List Char := ".txt".toList

/-- The text ends with the extension and has no line feed before it. -/
def endsListed (rest : List Char) : Bool :=
  match dropFront? listedExtension.reverse rest.reverse with
  | some m => !m.contains '\n'
  | none => false

/-- A file of this name is taken for a manifest when a directory is searched. -/
def isCandidate (name : String) : Bool :=
  (afterFront? name.toList).any endsListed

end ArchivalBag.Manifest

import ArchivalBag.Bag
import ArchivalBag.Reading.TagFile

/-!
# Reading a bag

The control files of a bag are in a directory of their own if there is one, else in the root of the
bag. They are read in a fixed order: the declaration, then all manifests, the metadata, and the fetch
list. Each step takes the bag as known so far and adds one part, and the first error ends it all.

* `controlDirectory`: where the control files are.
* `addDeclaration`, `addManifests`, `addMetadata`, `addFetchList`: the steps.
* `manifestFiles`: the manifests of a directory, by their paths.
* `readBag`: the whole bag.
-/

namespace ArchivalBag

/-- The file with the declaration. -/
def declarationFile : String := "bagit.txt"

/-- The file with the fetch list. -/
def fetchFile : String := "fetch.txt"

/-- The file with the metadata. -/
def metadataFile : String := "bag-info.txt"

/-- The file with the metadata under its former name. -/
def legacyMetadataFile : String := "package-info.txt"

/-- The directory of the control files. -/
def controlDirectoryName : String := ".bagit"

/-- Where the control files of a bag are. -/
def controlDirectory (t : FileTree) (root : Path) : Path :=
  let own := root.join controlDirectoryName
  if t.isDirectory own then own else root

/-- The bag with the declaration in a file. The encoding has to be a known one. -/
def addDeclaration (t : FileTree) (file : Path) (b : Bag) : Reading Bag := do
  let d ← readDeclaration t file
  match TextEncoding.ofLabel? d.encoding with
  | none => .fail (.unsupportedEncoding file d.encoding)
  | some _ => pure (b.withDeclaration d.version d.encoding)

/-- The encoding of the tag files of a bag. -/
def declaredEncoding (b : Bag) : Reading TextEncoding :=
  match TextEncoding.ofLabel? b.encoding with
  | none => .fail (.unsupportedEncoding b.root b.encoding)
  | some e => pure e

/-- Paths by their components. -/
def sortPaths (ps : List Path) : List Path :=
  ps.mergeSort fun p q => !decide (q.key < p.key)

/-- The files of a directory that are taken for manifests, by their paths. A file that its path does
not lead to, since the path is too long, is passed over. -/
def manifestFiles (t : FileTree) (dir : Path) : Except BagError (List Path) :=
  match t.list dir with
  | .error f => .error (.fileUnreadable dir f)
  | .ok entries =>
    let named := (entries.map Prod.fst).filter Manifest.isCandidate
    .ok (sortPaths ((named.map dir.join).filter t.isFile))

/-- The manifests in some files, each with the files it lists. -/
def readManifests (t : FileTree) (e : TextEncoding) (root : Path) :
    List Path → Reading (List (Manifest.Kind × Manifest))
  | [] => pure []
  | p :: ps => do
    let m ← readManifest t e p root
    let ms ← readManifests t e root ps
    pure ((Manifest.Kind.ofName (p.fileName?.getD ""), m) :: ms)

/-- The manifests of one kind. -/
def ofKind (k : Manifest.Kind) (ms : List (Manifest.Kind × Manifest)) : List Manifest :=
  (ms.filter fun m => m.1 == k).map (·.2)

/-- The bag with all manifests of a directory. -/
def addManifests (t : FileTree) (dir : Path) (b : Bag) : Reading Bag := do
  let e ← declaredEncoding b
  let files ← Reading.ofExcept (manifestFiles t dir)
  let ms ← readManifests t e b.root files
  pure (b.withManifests (ofKind .payload ms) (ofKind .tag ms))

/-- The metadata in a directory, under the current or the former name of its file. -/
def readMetadata (t : FileTree) (e : TextEncoding) (dir : Path) : Reading Metadata :=
  let current := dir.join metadataFile
  let legacy := dir.join legacyMetadataFile
  if t.contains current then do
    .note (.readingMetadata current)
    readFields t e current tagDelimiter
  else if t.contains legacy then do
    .note (.readingLegacyMetadata legacy)
    readFields t e legacy tagDelimiter
  else pure .empty

/-- The bag with the metadata in a directory. -/
def addMetadata (t : FileTree) (dir : Path) (b : Bag) : Reading Bag := do
  let e ← declaredEncoding b
  let m ← readMetadata t e dir
  pure (b.withMetadata m)

/-- The bag with the fetch list in a file. -/
def addFetchList (t : FileTree) (file : Path) (b : Bag) : Reading Bag := do
  let e ← declaredEncoding b
  let items ← readFetchList t e file
  pure (b.withFetchItems items)

/-- The bag with the fetch list in a directory, if there is one. -/
def addFetchListIn (t : FileTree) (dir : Path) (b : Bag) : Reading Bag :=
  let file := dir.join fetchFile
  if t.contains file then addFetchList t file b else pure b

/-- The event of a bag that was read. -/
def Bag.readEvent (b : Bag) : Log.Event :=
  .bagRead b.root b.version b.payloadManifests.length b.tagManifests.length b.metadata.size
    b.fetchItems.length

/-- The bag whose control files are in a directory. -/
def assemble (t : FileTree) (root dir : Path) : Reading Bag := do
  let file := dir.join declarationFile
  if t.contains file then
    let b ← addDeclaration t file (.new root)
    let b ← addManifests t dir b
    let b ← addMetadata t dir b
    let b ← addFetchListIn t dir b
    .note b.readEvent
    pure b
  else .fail (.missingFile file)

/-- The bag at an absolute path. -/
def readBagAt (t : FileTree) (root : Path) : Reading Bag := do
  let dir := controlDirectory t root
  .note (.controlFiles root dir)
  assemble t root dir

/-- An error, if it is the outcome, is an event too. -/
def Reading.reportFailure {α : Type} (root : Path) (x : Reading α) : Reading α :=
  match x.outcome with
  | .ok _ => x
  | .error e => ⟨.error e, x.events ++ [.bagFailed root e]⟩

/-- The bag at a path. -/
def readBag (t : FileTree) (root : Path) : Reading Bag :=
  Reading.reportFailure root <|
    match root.absolute? with
    | none => .fail (.fileUnreadable root .emptyPath)
    | some r => readBagAt t r

end ArchivalBag

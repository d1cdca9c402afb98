import ArchivalBag.Encoding.Utf8
import ArchivalBag.Proofs.FileTree
import ArchivalBag.Proofs.Encoding.Utf8
import ArchivalBag.Proofs.Manifest.Name
import ArchivalBag.Proofs.Reading.FoldedFields
import ArchivalBag.Proofs.Reading.ManifestEntries
import ArchivalBag.Reading.BagFiles

/-!
# Drafts of bags

A draft says what a bag is to hold and how its control files are written: one line for each checksum,
each field and each file that is to be fetched. Not everything can be written this way, since blanks
and line ends have a meaning, so a draft comes with the conditions under which its lines keep apart.

* `ManifestDraft`, `FetchDraft`, `BagDraft`: the drafts and the texts of their files.
* `IsPairDraft`, `IsFieldDraft`, `FetchDraft.IsWritable`: what a line can hold;
  `BagDraft.IsWritable`: what the files can hold.
* `BagDraft.StoredIn`: the entries of a directory that hold the files of a draft;
  `BagDraft.storedIn_entries_append`: there are such entries.
* `BagDraft.IsReadAs`: the bag that was drafted.
-/

namespace ArchivalBag

open Text Encoding

/-! ### Texts of files -/

/-- A manifest: checksums and paths, in the order of its lines. -/
structure ManifestDraft where
  kind : Manifest.Kind
  algorithm : String
  pairs : List (String × String)

/-- A file that is to be fetched, and the URL as it is written. -/
structure FetchDraft where
  url : String
  item : FetchItem

/-- The line of a checksum and a path. -/
def pairLine (x : String × String) : String :=
  x.1 ++ " " ++ x.2

/-- The line of a field. A value may hold line feeds, which start further lines. -/
def fieldLine (f : String × String) : String :=
  f.1 ++ ": " ++ f.2

/-- The line of a file that is to be fetched. -/
def FetchDraft.line (d : FetchDraft) : String :=
  d.url ++ " " ++ d.item.length.text ++ " " ++ d.item.path

/-- The same with other gaps between the fields. -/
def FetchDraft.gappedLine (d : FetchDraft) (gap gap' : String) : String :=
  d.url ++ gap ++ d.item.length.text ++ gap' ++ d.item.path

/-- The name of the file of a manifest. -/
def ManifestDraft.fileName (d : ManifestDraft) : String :=
  Manifest.fileName d.kind d.algorithm

/-- The text of the file of a manifest. -/
def ManifestDraft.text (d : ManifestDraft) : String :=
  endedText (d.pairs.map pairLine)

/-- A bag: its manifests, fields, and files that are to be fetched, in the order of their lines. -/
structure BagDraft where
  version : Version
  manifests : List ManifestDraft
  fields : List (String × String)
  items : List FetchDraft

namespace BagDraft

/-- The text of the declaration. -/
def declarationText (d : BagDraft) : String :=
  endedText ["BagIt-Version: " ++ d.version.text, "Tag-File-Character-Encoding: UTF-8"]

/-- The text of the metadata. -/
def metadataText (d : BagDraft) : String :=
  endedText (d.fields.map fieldLine)

/-- The text of the fetch list. -/
def fetchText (d : BagDraft) : String :=
  endedText (d.items.map FetchDraft.line)

end BagDraft

/-! ### What a line can hold -/

/-- A path that the rest of a line can hold. -/
structure IsPathDraft (p : String) : Prop where
  isRest : IsRest p.toList
  notMem : '\n' ∉ p.toList
  getLast?_ne : p.toList.getLast? ≠ some '\r'

instance (p : String) : Decidable (IsPathDraft p) :=
  decidable_of_iff (IsRest p.toList ∧ '\n' ∉ p.toList ∧ p.toList.getLast? ≠ some '\r')
    ⟨fun ⟨h₁, h₂, h₃⟩ => ⟨h₁, h₂, h₃⟩, fun ⟨h₁, h₂, h₃⟩ => ⟨h₁, h₂, h₃⟩⟩

/-- A checksum and a path that a line can hold. -/
structure IsPairDraft (x : String × String) : Prop where
  isField : IsField x.1.toList
  isPath : IsPathDraft x.2

instance (x : String × String) : Decidable (IsPairDraft x) :=
  decidable_of_iff (IsField x.1.toList ∧ IsPathDraft x.2)
    ⟨fun ⟨h₁, h₂⟩ => ⟨h₁, h₂⟩, fun ⟨h₁, h₂⟩ => ⟨h₁, h₂⟩⟩

/-- A key that the front of a line can hold. -/
structure IsKeyDraft (k : String) : Prop where
  ne_empty : k ≠ ""
  trim_eq : trim k.toList = k.toList
  plain : ∀ c ∈ k.toList, c ≠ ':' ∧ c ≠ '\n'

instance (k : String) : Decidable (IsKeyDraft k) :=
  decidable_of_iff (k ≠ "" ∧ trim k.toList = k.toList ∧
      (k.toList.all fun c => c ≠ ':' ∧ c ≠ '\n') = true)
    ⟨fun ⟨h₁, h₂, h₃⟩ => ⟨h₁, h₂, by simpa using h₃⟩,
      fun ⟨h₁, h₂, h₃⟩ => ⟨h₁, h₂, by simpa using h₃⟩⟩

/-- A key and a value that a line and its folds can hold. -/
structure IsFieldDraft (f : String × String) : Prop where
  isKey : IsKeyDraft f.1
  value : ∃ first folds, f.2 = String.ofList first ++ Block.foldText folds ∧ trim first = first ∧
    '\n' ∉ first ∧ ∀ l ∈ folds, isFold l = true ∧ IsPlainLine l

/-- A gap between the fields of a line. -/
structure IsLineGap (w : String) : Prop where
  isGap : IsGap w.toList
  notMem : '\n' ∉ w.toList

instance (w : String) : Decidable (IsLineGap w) :=
  decidable_of_iff (IsGap w.toList ∧ '\n' ∉ w.toList) ⟨fun ⟨h₁, h₂⟩ => ⟨h₁, h₂⟩, fun ⟨h₁, h₂⟩ => ⟨h₁, h₂⟩⟩

/-- A file to be fetched that a line can hold. -/
structure FetchDraft.IsWritable (d : FetchDraft) : Prop where
  isField : IsField d.url.toList
  parse : Url.parse d.url = .ok d.item.url
  isPath : IsPathDraft d.item.path

instance (d : FetchDraft) : Decidable d.IsWritable :=
  decidable_of_iff
    (IsField d.url.toList ∧ Url.parse d.url = .ok d.item.url ∧ IsPathDraft d.item.path)
    ⟨fun ⟨h₁, h₂, h₃⟩ => ⟨h₁, h₂, h₃⟩, fun ⟨h₁, h₂, h₃⟩ => ⟨h₁, h₂, h₃⟩⟩

/-- A text that does not start with a byte order mark. -/
def IsUnmarked (text : String) : Prop :=
  text.toList.head? ≠ some markChar

instance (text : String) : Decidable (IsUnmarked text) :=
  inferInstanceAs (Decidable (_ ≠ _))

/-- A draft that the lines of its files can hold. -/
structure BagDraft.IsWritable (d : BagDraft) : Prop where
  isAlgorithm : ∀ m ∈ d.manifests, Manifest.IsAlgorithm m.algorithm
  isPair : ∀ m ∈ d.manifests, ∀ x ∈ m.pairs, IsPairDraft x
  isUnmarked : ∀ m ∈ d.manifests, IsUnmarked m.text
  nodup : (d.manifests.map fun m => (m.kind, m.algorithm)).Nodup
  isField : ∀ f ∈ d.fields, IsFieldDraft f
  nodup_keys : (d.fields.map Prod.fst).Nodup
  isUnmarked_metadata : IsUnmarked d.metadataText
  isFetch : ∀ i ∈ d.items, i.IsWritable

/-! ### Where the files are and what they amount to -/

/-- A file of a text. -/
def textFile (text : String) : FileTree :=
  .file (Utf8.encode text)

/-- The names of the files of a draft. -/
def BagDraft.fileNames (d : BagDraft) : List String :=
  declarationFile :: metadataFile :: fetchFile :: d.manifests.map ManifestDraft.fileName

/-- The entries of a directory for the files of a draft. -/
def BagDraft.entries (d : BagDraft) : List (String × FileTree) :=
  (declarationFile, textFile d.declarationText) :: (metadataFile, textFile d.metadataText) ::
    (fetchFile, textFile d.fetchText) :: d.manifests.map fun m => (m.fileName, textFile m.text)

/-- The files of a draft are among the entries of the directory `r`, next to anything but a directory
of control files and further files that are taken for manifests. Their paths are not too long for the
file system. -/
structure BagDraft.StoredIn (d : BagDraft) (r : Path) (es : List (String × FileTree)) : Prop where
  notMem_control : ∀ ds, (controlDirectoryName, FileTree.directory ds) ∉ es
  declaration : (declarationFile, textFile d.declarationText) ∈ es
  metadata : (metadataFile, textFile d.metadataText) ∈ es
  fetch : (fetchFile, textFile d.fetchText) ∈ es
  manifest : ∀ m ∈ d.manifests, (m.fileName, textFile m.text) ∈ es
  isManifest : ∀ n bytes, (n, FileTree.file bytes) ∈ es → Manifest.isCandidate n = true →
    ∃ m ∈ d.manifests, n = m.fileName
  short : ∀ n ∈ d.fileNames, (r.join n).text.utf8ByteSize ≤ FileTree.maxPathLength

/-- A name among the files of a draft. -/
theorem BagDraft.mem_fileNames_of_mem_entries {d : BagDraft} {n : String} {u : FileTree}
    (h : (n, u) ∈ d.entries) :
    n = declarationFile ∨ n = metadataFile ∨ n = fetchFile ∨ ∃ m ∈ d.manifests, n = m.fileName := by
  simp only [entries, List.mem_cons, List.mem_map, Prod.mk.injEq] at h
  rcases h with h | h | h | ⟨m, hm, h, -⟩
  · exact .inl h.1
  · exact .inr (.inl h.1)
  · exact .inr (.inr (.inl h.1))
  · exact .inr (.inr (.inr ⟨m, hm, h.symm⟩))

/-- Manifests that differ in their kinds or their algorithms have files of different names. -/
theorem ManifestDraft.nodup_fileName_iff {ms : List ManifestDraft} :
    (ms.map fileName).Nodup ↔ (ms.map fun m => (m.kind, m.algorithm)).Nodup := by
  have hinj : Function.Injective fun x : Manifest.Kind × String => Manifest.fileName x.1 x.2 := by
    rintro ⟨k, a⟩ ⟨k', a'⟩ h
    obtain ⟨rfl, rfl⟩ := Manifest.fileName_inj h
    rfl
  rw [← List.nodup_map_iff hinj, List.map_map]
  rfl

/-- The files of a draft can be stored next to any other entries. -/
theorem BagDraft.storedIn_entries_append {d : BagDraft} {r : Path} {es : List (String × FileTree)}
    (hc : ∀ ds, (controlDirectoryName, FileTree.directory ds) ∉ es)
    (hm : ∀ n bytes, (n, FileTree.file bytes) ∈ es → Manifest.isCandidate n = false)
    (hs : ∀ n ∈ d.fileNames, (r.join n).text.utf8ByteSize ≤ FileTree.maxPathLength) :
    d.StoredIn r (d.entries ++ es) where
  notMem_control ds hds := by
    rcases List.mem_append.1 hds with hds | hds
    · rcases mem_fileNames_of_mem_entries hds with hn | hn | hn | ⟨m, -, hn⟩
      · exact absurd hn (by decide)
      · exact absurd hn (by decide)
      · exact absurd hn (by decide)
      · exact Manifest.fileName_ne_of_head? (by decide) (by decide) hn.symm
    · exact hc ds hds
  declaration := by simp [entries]
  metadata := by simp [entries]
  fetch := by simp [entries]
  manifest m hm := by
    refine List.mem_append_left _ ?_
    simp only [entries, List.mem_cons, List.mem_map]
    exact .inr (.inr (.inr ⟨m, hm, rfl⟩))
  isManifest n bytes hn hcand := by
    rcases List.mem_append.1 hn with hn | hn
    · rcases mem_fileNames_of_mem_entries hn with rfl | rfl | rfl | hn
      · exact absurd hcand (by decide)
      · exact absurd hcand (by decide)
      · exact absurd hcand (by decide)
      · exact hn
    · rw [hm n bytes hn] at hcand
      cases hcand
  short := hs

/-- The manifest that was drafted, with its paths below the root of the bag. -/
def ManifestDraft.IsReadAs (d : ManifestDraft) (root : Path) (m : Manifest) : Prop :=
  m.algorithm = d.algorithm ∧ m.Records (d.pairs.map (belowRoot root))

/-- The manifests of one kind that were drafted, by their algorithms. -/
def BagDraft.AreReadAs (d : BagDraft) (k : Manifest.Kind) (root : Path) (ms : List Manifest) :
    Prop :=
  (ms.Pairwise fun m n => m.algorithm < n.algorithm) ∧
    ∃ ds, ds.Perm (d.manifests.filter fun m => m.kind = k) ∧
      List.Forall₂ (fun m n => ManifestDraft.IsReadAs m root n) ds ms

/-- The bag that was drafted. -/
structure BagDraft.IsReadAs (d : BagDraft) (r : Path) (b : Bag) : Prop where
  root : b.root = r
  version : b.version = d.version
  encoding : b.encoding = "UTF-8"
  payloadManifests : d.AreReadAs .payload r b.payloadManifests
  tagManifests : d.AreReadAs .tag r b.tagManifests
  metadata : b.metadata.entries = d.fields
  fetchItems : b.fetchItems = d.items.map FetchDraft.item

end ArchivalBag

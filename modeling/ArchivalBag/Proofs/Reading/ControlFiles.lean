import ArchivalBag.Proofs.Reading.ControlTexts

/-!
# Nothing but control files

A bag is read from the control files in its control directory and from nothing else. Trees in which these
are the same hold the same bag, or they fail with the same error: neither the payload nor any other
entry has a say, nor a directory under the name of a manifest, nor the metadata under the former name
next to those under the current one. If the bag has a directory for its control files, then no file next
to this directory has a say either.

* `SameControlFiles`: the control files in a directory are the same in two trees.
* `readBag_eq_of_sameControlFiles`: bags with the same control files are read alike.
-/

namespace ArchivalBag

open FileTree

variable {t t' : FileTree} {c : Path}

/-- **The control files in a directory are the same in two trees.** The declaration, the metadata and
the fetch list are absent, a directory, or a file with the same bytes in both; so are the metadata under
the former name, unless there are some under the current one. The same names of manifests are those of
files, with the same bytes. -/
structure SameControlFiles (t t' : FileTree) (c : Path) : Prop where
  declaration : t.find (c.join declarationFile) = t'.find (c.join declarationFile)
  metadata : t.find (c.join metadataFile) = t'.find (c.join metadataFile)
  legacyMetadata : t.contains (c.join metadataFile) = false →
    t.find (c.join legacyMetadataFile) = t'.find (c.join legacyMetadataFile)
  fetchList : t.find (c.join fetchFile) = t'.find (c.join fetchFile)
  manifests : ∀ n, IsName n → Manifest.isCandidate n = true →
    ∀ b, t.find (c.join n) = .file b ↔ t'.find (c.join n) = .file b

theorem sameFileText_of_find_iff {p : Path} {e : TextEncoding}
    (h : ∀ b, t.find p = .file b ↔ t'.find p = .file b) : SameFileText t t' e p where
  isFile := by
    rw [Bool.eq_iff_iff, isFile_iff, isFile_iff]
    exact exists_congr h
  text hf := by
    obtain ⟨b, hb⟩ := isFile_iff.1 hf
    exact readText_congr ((read_eq_ok_iff.2 hb).trans (read_eq_ok_iff.2 ((h b).1 hb)).symm)

/-- The same files have the same texts, in whichever encoding they are read. -/
theorem SameControlFiles.sameControlTexts (h : SameControlFiles t t' c) : SameControlTexts t t' c where
  declaration := sameText_of_find_eq h.declaration
  later _ _ :=
    { manifests := fun n hn hc => sameFileText_of_find_iff (h.manifests n hn hc)
      metadata := sameText_of_find_eq h.metadata
      legacyMetadata := fun hm => sameText_of_find_eq (h.legacyMetadata hm)
      fetchList := sameText_of_find_eq h.fetchList }

/-- **Nothing but the control files of a bag has a say.** Two trees in which the control files are in the
same place and are the same there give the same result for the bag, by the same events. -/
theorem readBag_eq_of_sameControlFiles {root : Path} (ht : t.Legal) (ht' : t'.Legal)
    (hdir : ∀ r, root.absolute? = some r → t.isDirectory (r.join controlDirectoryName) =
      t'.isDirectory (r.join controlDirectoryName))
    (h : ∀ r, root.absolute? = some r → SameControlFiles t t' (controlDirectory t r)) :
    readBag t root = readBag t' root :=
  readBag_congr ht ht' hdir fun r hr => (h r hr).sameControlTexts

/-- The control files of a bag with a directory of their own. -/
def ownControlFiles : List (String × FileTree) :=
  [("bagit.txt", .file (Encoding.Utf8.encode
      "BagIt-Version: 1.0\nTag-File-Character-Encoding: UTF-8\n")),
    ("manifest-md5.txt", .file (Encoding.Utf8.encode "abc data/x\n")),
    ("bag-info.txt", .file (Encoding.Utf8.encode "Contact: me\n"))]

/-- The same control files, between entries that do not count. -/
def hiddenControlFiles : List (String × FileTree) :=
  ("package-info.txt", .file (Encoding.Utf8.encode "no field\n")) ::
    ("manifest-sha1.txt", .directory []) :: ownControlFiles.reverse

/-- A bag with its payload. -/
def ownTree : FileTree :=
  .directory [("bag", .directory
    [(".bagit", .directory ownControlFiles), ("data", .directory [("x", .file [])])])]

/-- A bag without its payload, but with files in its root that look like control files. -/
def hiddenTree : FileTree :=
  .directory [("bag", .directory
    [("bagit.txt", .file []), ("fetch.txt", .file [0xFF]), (".bagit", .directory hiddenControlFiles)])]

theorem mem_hiddenControlFiles_iff {n : String} (hn : Manifest.isCandidate n = true) {b : List UInt8} :
    (n, FileTree.file b) ∈ hiddenControlFiles ↔ (n, FileTree.file b) ∈ ownControlFiles := by
  have hne : n ≠ "package-info.txt" := by
    rintro rfl
    revert hn
    decide
  simp [hiddenControlFiles, hne]

/-- The two trees hold the same bag. -/
theorem readBag_eq_of_sameControlFiles_hidden :
    ownTree.Legal ∧ hiddenTree.Legal ∧
      (∀ r, Path.absolute? ⟨"bag"⟩ = some r → ownTree.isDirectory (r.join controlDirectoryName) =
        hiddenTree.isDirectory (r.join controlDirectoryName)) ∧
      (∀ r, Path.absolute? ⟨"bag"⟩ = some r →
        SameControlFiles ownTree hiddenTree (controlDirectory ownTree r)) ∧
      readBag ownTree ⟨"bag"⟩ = readBag hiddenTree ⟨"bag"⟩ := by
  have ht : ownTree.Legal := by decide
  have ht' : hiddenTree.Legal := by decide
  have hr : ∀ r, Path.absolute? ⟨"bag"⟩ = some r → r = ⟨"/bag"⟩ := fun r hr => (Option.some.inj hr).symm
  have hdir : ∀ r, Path.absolute? ⟨"bag"⟩ = some r → ownTree.isDirectory (r.join controlDirectoryName) =
      hiddenTree.isDirectory (r.join controlDirectoryName) := by
    intro r h
    rw [hr r h]
    rfl
  have hlist : ownTree.Lists ⟨"/bag/.bagit"⟩ ownControlFiles := ht.lists rfl
  have hlist' : hiddenTree.Lists ⟨"/bag/.bagit"⟩ hiddenControlFiles := ht'.lists rfl
  have hfiles : SameControlFiles ownTree hiddenTree ⟨"/bag/.bagit"⟩ :=
    { declaration := rfl
      metadata := rfl
      legacyMetadata := fun h => absurd h (by decide)
      fetchList := rfl
      manifests := fun n hn hc b => by
        rw [hlist.find_join_eq_file_iff hn, hlist'.find_join_eq_file_iff hn,
          mem_hiddenControlFiles_iff hc] }
  have h : ∀ r, Path.absolute? ⟨"bag"⟩ = some r →
      SameControlFiles ownTree hiddenTree (controlDirectory ownTree r) := by
    intro r h
    rw [hr r h]
    exact hfiles
  exact ⟨ht, ht', hdir, h, readBag_eq_of_sameControlFiles ht ht' hdir h⟩

end ArchivalBag

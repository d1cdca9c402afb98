import ArchivalBag.Proofs.FileTree.Finding
import ArchivalBag.Proofs.Reading.Failures

/-!
# The texts that a bag is read from

All that a bag depends on are the texts of its control files: which of them there are, and what they say
in the encoding that each of them is read in. Trees with the same texts hold the same bag, or they fail
with the same error, and the reading of either is logged alike.

* `SameText`, `SameFileText`: a path leads to the same text in two trees, or to none in both.
* `SameControlTexts`: the control files in a directory have the same texts.
* `assemble_congr`, `readBag_congr`: bags with the same texts are read alike.
-/

namespace ArchivalBag

open FileTree

variable {t t' : FileTree} {e : TextEncoding} {r c p : Path} {b : Bag}

/-- The path leads somewhere in both trees or in neither, and if it does then the same text is read
there. -/
structure SameText (t t' : FileTree) (e : TextEncoding) (p : Path) : Prop where
  contains : t.contains p = t'.contains p
  text : t.contains p = true → readText t e p = readText t' e p

/-- The path leads to a file in both trees or in neither, and if it does then the same text is read
there. -/
structure SameFileText (t t' : FileTree) (e : TextEncoding) (p : Path) : Prop where
  isFile : t.isFile p = t'.isFile p
  text : t.isFile p = true → readText t e p = readText t' e p

/-- The control files behind the declaration have the same texts in an encoding. The metadata under the
former name count only if there are none under the current one. -/
structure SameLaterTexts (t t' : FileTree) (e : TextEncoding) (c : Path) : Prop where
  manifests : ∀ n, IsName n → Manifest.isCandidate n = true → SameFileText t t' e (c.join n)
  metadata : SameText t t' e (c.join metadataFile)
  legacyMetadata : t.contains (c.join metadataFile) = false →
    SameText t t' e (c.join legacyMetadataFile)
  fetchList : SameText t t' e (c.join fetchFile)

/-- **The control files in a directory have the same texts**: the declaration in UTF-8, all others in
the encoding that it names. -/
structure SameControlTexts (t t' : FileTree) (c : Path) : Prop where
  declaration : SameText t t' .utf8 (c.join declarationFile)
  later : ∀ e, Declares t c e → SameLaterTexts t t' e c

theorem sameText_of_find_eq (h : t.find p = t'.find p) : SameText t t' e p :=
  ⟨contains_congr h, fun hc => readText_congr (read_congr h hc)⟩

/-! ### Files of each kind -/

theorem readFields_congr {delimiter : String} (h : readText t e p = readText t' e p) :
    readFields t e p delimiter = readFields t' e p delimiter := by
  rw [readFields, readFields, h]

theorem readFetchList_congr (h : readText t e p = readText t' e p) :
    readFetchList t e p = readFetchList t' e p := by
  rw [readFetchList, readFetchList, h]

theorem addDeclaration_congr (h : readText t .utf8 p = readText t' .utf8 p) :
    addDeclaration t p b = addDeclaration t' p b := by
  rw [addDeclaration, addDeclaration, readDeclaration, readDeclaration, readFields_congr h]

/-! ### The steps -/

section Steps
variable (h : SameLaterTexts t t' e c)

include h

theorem readMetadata_congr : readMetadata t e c = readMetadata t' e c := by
  unfold readMetadata
  dsimp only
  rw [← h.metadata.contains]
  split
  · rename_i hcurrent
    rw [readFields_congr (h.metadata.text hcurrent)]
  · rename_i hcurrent
    have hs := h.legacyMetadata (by simpa using hcurrent)
    rw [← hs.contains]
    split
    · rename_i hlegacy
      rw [readFields_congr (hs.text hlegacy)]
    · rfl

variable (he : TextEncoding.ofLabel? b.encoding = some e)

include he

theorem addManifests_congr {es es' : List (String × FileTree)} (hes : t.Lists c es)
    (hes' : t'.Lists c es') : addManifests t c b = addManifests t' c b := by
  have hfound : manifestFiles t c = manifestFiles t' c :=
    manifestFiles_congr hes hes' fun n hn hc => (h.manifests n hn hc).isFile
  rw [addManifests, addManifests, declaredEncoding_eq he, Reading.pure_bind, Reading.pure_bind, ← hfound]
  refine Reading.bind_congr_of_ok rfl fun files hfiles => ?_
  have htexts : ∀ p ∈ files, readText t e p = readText t' e p := by
    intro p hp
    obtain ⟨n, hn, hc, hf, rfl⟩ := exists_name_of_mem_manifestFiles hes hfiles hp
    exact (h.manifests n hn hc).text hf
  rw [readManifests_congr htexts]

theorem addMetadata_congr : addMetadata t c b = addMetadata t' c b := by
  rw [addMetadata, addMetadata, declaredEncoding_eq he, Reading.pure_bind, Reading.pure_bind,
    readMetadata_congr h]

theorem addFetchListIn_congr : addFetchListIn t c b = addFetchListIn t' c b := by
  unfold addFetchListIn addFetchList
  dsimp only
  rw [← h.fetchList.contains]
  split
  · rename_i hc
    rw [declaredEncoding_eq he, Reading.pure_bind, Reading.pure_bind,
      readFetchList_congr (h.fetchList.text hc)]
  · rfl

end Steps

/-! ### Whole bags -/

section Bags
variable (ht : t.Legal) (ht' : t'.Legal)

include ht

/-- The directory of a declaration can be listed. -/
theorem exists_lists_of_contains_declaration (hc : c.isEmpty = false)
    (h : t.contains (c.join declarationFile) = true) : ∃ es, t.Lists c es := by
  obtain ⟨es, hes, -⟩ := exists_list_of_contains_join hc (isName_controlFile (by simp)) h
  exact ⟨es, ht.lists hes⟩

include ht'

/-- **The same texts give the same bag**, by the same events. -/
theorem assemble_congr (hc : c.isEmpty = false) (h : SameControlTexts t t' c) :
    assemble t r c = assemble t' r c := by
  unfold assemble
  dsimp only
  rw [← h.declaration.contains]
  split
  · rename_i hd
    obtain ⟨es, hes⟩ := exists_lists_of_contains_declaration ht hc hd
    obtain ⟨es', hes'⟩ :=
      exists_lists_of_contains_declaration ht' hc (h.declaration.contains.symm.trans hd)
    refine Reading.bind_congr_of_ok (addDeclaration_congr (h.declaration.text hd)) fun b₁ h₁ => ?_
    obtain ⟨d, e, hread, he, rfl⟩ := addDeclaration_eq_ok_iff.1 h₁
    have hs := h.later e ⟨d, hread, he⟩
    have he₁ : TextEncoding.ofLabel? ((Bag.new r).withDeclaration d.version d.encoding).encoding =
      some e := he
    refine Reading.bind_congr_of_ok (addManifests_congr hs he₁ hes hes') fun b₂ h₂ => ?_
    obtain ⟨files, -, ms, -, hb₂⟩ := (addManifests_eq_ok_iff he₁).1 h₂
    have he₂ : TextEncoding.ofLabel? b₂.encoding = some e := by rw [← hb₂]; exact he
    refine Reading.bind_congr_of_ok (addMetadata_congr hs he₂) fun b₃ h₃ => ?_
    obtain ⟨m, -, hb₃⟩ := (addMetadata_eq_ok_iff he₂).1 h₃
    have he₃ : TextEncoding.ofLabel? b₃.encoding = some e := by rw [← hb₃]; exact he₂
    rw [addFetchListIn_congr hs he₃]
  · rfl

/-- **Bags with the same texts are read alike**, if their control files are in the same place. -/
theorem readBag_congr {root : Path}
    (hdir : ∀ r, root.absolute? = some r → t.isDirectory (r.join controlDirectoryName) =
      t'.isDirectory (r.join controlDirectoryName))
    (h : ∀ r, root.absolute? = some r → SameControlTexts t t' (controlDirectory t r)) :
    readBag t root = readBag t' root := by
  unfold readBag
  cases hr : root.absolute? with
  | none => rfl
  | some r =>
    have hdir' : controlDirectory t r = controlDirectory t' r := by
      unfold controlDirectory
      dsimp only
      rw [hdir r hr]
    have hc : (controlDirectory t r).isEmpty = false :=
      isEmpty_controlDirectory (Path.rooted_absolute? hr).isEmpty_eq_false
    dsimp only
    rw [readBagAt, readBagAt, ← hdir', assemble_congr ht ht' hc (h r hr)]

end Bags

end ArchivalBag

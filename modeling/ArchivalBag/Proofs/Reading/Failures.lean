import ArchivalBag.Proofs.FileTree.Order
import ArchivalBag.Proofs.Reading.ManifestFiles
import ArchivalBag.Proofs.Reading.Reports
import ArchivalBag.Proofs.Reading.Stages

/-!
# Why a bag is not read

The control files of a bag are read one after the other, and a bag that is not read is blamed on the
first of them that cannot be read alone. The error names this file, and if it reports a line, then the
line stands in the file under its number.

* `controlReads`: the control files behind the declaration, each with what reading it alone gives.
* `FailsFirst`: an error is that of the first file that cannot be read.
* `BagError.NamesFile`, `BagError.IsTrueOf`: the file that an error names, and what it says of it.
* `readBag_isTrueOf`: every error of a bag is that of the first file, names this file and is true.
-/

namespace ArchivalBag

open FileTree

variable {t : FileTree} {e : TextEncoding} {r c p : Path} {x : BagError}

/-! ### Files that are read alone -/

/-- What a reading gives, but for the value. -/
def Reading.verdict {α : Type} (y : Reading α) : Except BagError Unit :=
  y.outcome.map fun _ => ()

theorem Reading.verdict_of_ok {α : Type} {y : Reading α} {a : α} (h : y.outcome = .ok a) :
    y.verdict = .ok () := by
  rw [verdict, h]; rfl

theorem Reading.verdict_eq_error_iff {α : Type} {y : Reading α} :
    y.verdict = .error x ↔ y.outcome = .error x := by
  rw [verdict]
  cases y.outcome <;> simp [Except.map]

/-- The metadata are read from the file under the current name, else from the one under the former
name. -/
def metadataReads (t : FileTree) (e : TextEncoding) (c : Path) : List (Path × Except BagError Unit) :=
  if t.contains (c.join metadataFile) then
    [(c.join metadataFile, (readFields t e (c.join metadataFile) tagDelimiter).verdict)]
  else if t.contains (c.join legacyMetadataFile) then
    [(c.join legacyMetadataFile, (readFields t e (c.join legacyMetadataFile) tagDelimiter).verdict)]
  else []

/-- The fetch list is read if there is one. -/
def fetchReads (t : FileTree) (e : TextEncoding) (c : Path) : List (Path × Except BagError Unit) :=
  if t.contains (c.join fetchFile) then
    [(c.join fetchFile, (readFetchList t e (c.join fetchFile)).verdict)]
  else []

/-- The control files behind the declaration in the order in which they are read, each with what reading
it alone gives. -/
def controlReads (t : FileTree) (e : TextEncoding) (r c : Path) (files : List Path) :
    List (Path × Except BagError Unit) :=
  files.map (fun p => (p, (readManifest t e p r).verdict)) ++ metadataReads t e c ++ fetchReads t e c

/-- The declaration in a directory can be read and names an encoding. -/
def Declares (t : FileTree) (c : Path) (e : TextEncoding) : Prop :=
  ∃ d, (readDeclaration t (c.join declarationFile)).outcome = .ok d ∧
    TextEncoding.ofLabel? d.encoding = some e

/-- **The first file that cannot be read**, with the error it gives alone. All files before it can be
read. -/
inductive FailsFirst (t : FileTree) (r c : Path) : Path → BagError → Prop where
  | missing (lacks : t.contains (c.join declarationFile) = false) :
      FailsFirst t r c (c.join declarationFile) (.missingFile (c.join declarationFile))
  | declaration {x : BagError} (has : t.contains (c.join declarationFile) = true)
      (fails : (addDeclaration t (c.join declarationFile) (.new r)).outcome = .error x) :
      FailsFirst t r c (c.join declarationFile) x
  | later {p : Path} {x : BagError} {e : TextEncoding} {files : List Path}
      {before after : List (Path × Except BagError Unit)} (declares : Declares t c e)
      (found : manifestFiles t c = .ok files)
      (reads : controlReads t e r c files = before ++ (p, .error x) :: after)
      (passed : ∀ y ∈ before, y.2 = .ok ()) : FailsFirst t r c p x

theorem metadataReads_of_error (h : (readMetadata t e c).outcome = .error x) :
    ∃ p, metadataReads t e c = [(p, .error x)] := by
  unfold readMetadata at h
  unfold metadataReads
  dsimp only at h
  split_ifs at h ⊢ with hcur hleg
  · rw [Reading.outcome_note_bind] at h
    exact ⟨_, by rw [Reading.verdict_eq_error_iff.2 h]⟩
  · rw [Reading.outcome_note_bind] at h
    exact ⟨_, by rw [Reading.verdict_eq_error_iff.2 h]⟩
  · cases h

theorem metadataReads_of_ok {m : Metadata} (h : (readMetadata t e c).outcome = .ok m) :
    ∀ y ∈ metadataReads t e c, y.2 = .ok () := by
  unfold readMetadata at h
  unfold metadataReads
  dsimp only at h
  intro y hy
  split_ifs at h hy with hcur hleg
  · rw [Reading.outcome_note_bind] at h
    rw [List.mem_singleton.1 hy]
    exact Reading.verdict_of_ok h
  · rw [Reading.outcome_note_bind] at h
    rw [List.mem_singleton.1 hy]
    exact Reading.verdict_of_ok h
  · cases hy

theorem fetchReads_of_error (hc : t.contains (c.join fetchFile) = true)
    (h : (readFetchList t e (c.join fetchFile)).outcome = .error x) :
    fetchReads t e c = [(c.join fetchFile, .error x)] := by
  rw [fetchReads, if_pos hc, Reading.verdict_eq_error_iff.2 h]

/-! ### The first file that fails -/

/-- The manifests are read one after the other. -/
theorem exists_failsFirst_of_manifests {files : List Path} (hd : Declares t c e)
    (hf : manifestFiles t c = .ok files) (h : (readManifests t e r files).outcome = .error x) :
    ∃ p, FailsFirst t r c p x := by
  obtain ⟨before, p, after, rfl, hbefore, hp⟩ := exists_of_readManifests_eq_error h
  have hreads : controlReads t e r c (before ++ p :: after) =
      before.map (fun q => (q, (readManifest t e q r).verdict)) ++ (p, .error x) ::
        (after.map (fun q => (q, (readManifest t e q r).verdict)) ++ metadataReads t e c ++
          fetchReads t e c) := by
    rw [controlReads, List.map_append, List.map_cons, Reading.verdict_eq_error_iff.2 hp]
    simp only [List.append_assoc, List.cons_append]
  refine ⟨p, .later hd hf hreads fun y hy => ?_⟩
  obtain ⟨q, hq, rfl⟩ := List.mem_map.1 hy
  obtain ⟨m, hm⟩ := hbefore q hq
  exact Reading.verdict_of_ok hm

theorem verdict_of_readManifests {files : List Path} {ms : List (Manifest.Kind × Manifest)}
    (hm : (readManifests t e r files).outcome = .ok ms) :
    ∀ y ∈ files.map (fun q => (q, (readManifest t e q r).verdict)), y.2 = .ok () := by
  intro y hy
  obtain ⟨q, hq, rfl⟩ := List.mem_map.1 hy
  obtain ⟨m, -, hread, -⟩ :=
    exists_mem_of_forall₂ (List.Forall₂.flip (readManifests_eq_ok_iff.1 hm)) hq
  exact Reading.verdict_of_ok hread

/-- Then the metadata. -/
theorem exists_failsFirst_of_metadata {files : List Path} {ms : List (Manifest.Kind × Manifest)}
    (hd : Declares t c e) (hf : manifestFiles t c = .ok files)
    (hms : (readManifests t e r files).outcome = .ok ms)
    (h : (readMetadata t e c).outcome = .error x) : ∃ p, FailsFirst t r c p x := by
  obtain ⟨p, hp⟩ := metadataReads_of_error h
  have hreads : controlReads t e r c files =
      files.map (fun q => (q, (readManifest t e q r).verdict)) ++ (p, .error x) :: fetchReads t e c := by
    rw [controlReads, hp, List.append_assoc, List.singleton_append]
  exact ⟨p, .later hd hf hreads (verdict_of_readManifests hms)⟩

/-- Then the fetch list. -/
theorem failsFirst_of_fetchList {files : List Path} {ms : List (Manifest.Kind × Manifest)}
    {m : Metadata} (hd : Declares t c e) (hf : manifestFiles t c = .ok files)
    (hms : (readManifests t e r files).outcome = .ok ms)
    (hm : (readMetadata t e c).outcome = .ok m) (hc : t.contains (c.join fetchFile) = true)
    (h : (readFetchList t e (c.join fetchFile)).outcome = .error x) :
    FailsFirst t r c (c.join fetchFile) x := by
  have hreads : controlReads t e r c files =
      (files.map (fun q => (q, (readManifest t e q r).verdict)) ++ metadataReads t e c) ++
        [(c.join fetchFile, .error x)] := by
    rw [controlReads, fetchReads_of_error hc h]
  refine .later hd hf hreads fun y hy => ?_
  rcases List.mem_append.1 hy with hy | hy
  · exact verdict_of_readManifests hms y hy
  · exact metadataReads_of_ok hm y hy

/-- The names that control files can have. -/
theorem isName_controlFile {n : String}
    (h : n ∈ [declarationFile, metadataFile, legacyMetadataFile, fetchFile]) : IsName n := by
  have hall : ∀ n ∈ [declarationFile, metadataFile, legacyMetadataFile, fetchFile], IsName n := by
    decide
  exact hall n h

/-- A directory with an entry that can be found can be listed. -/
theorem exists_list_of_contains_join (hc : c.isEmpty = false) {n : String} (hn : IsName n)
    (h : t.contains (c.join n) = true) :
    ∃ es, t.list c = .ok es ∧ (c.join n).text.utf8ByteSize ≤ maxPathLength := by
  unfold contains at h
  cases hu : t.resolve (c.join n) with
  | error f => rw [hu] at h; cases h
  | ok u => exact exists_list_of_resolve_join hc hn hu

/-- **The first file that cannot be read** tells why a bag is not read. -/
theorem exists_failsFirst_of_assemble (hc : c.isEmpty = false)
    (h : (assemble t r c).outcome = .error x) : ∃ p, FailsFirst t r c p x := by
  rcases assemble_eq_error_iff.1 h with ⟨hlacks, rfl⟩ | ⟨hhas, h⟩
  · exact ⟨_, .missing hlacks⟩
  rcases h with h | ⟨b₁, h₁, h⟩
  · exact ⟨_, .declaration hhas h⟩
  obtain ⟨d, e, hread, he, rfl⟩ := addDeclaration_eq_ok_iff.1 h₁
  have hd : Declares t c e := ⟨d, hread, he⟩
  have he₁ : TextEncoding.ofLabel? ((Bag.new r).withDeclaration d.version d.encoding).encoding =
    some e := he
  rcases h with h | ⟨b₂, h₂, h⟩
  · rcases (addManifests_eq_error_iff he₁).1 h with h | ⟨files, hfiles, h⟩
    · -- the directory of the declaration can be listed
      obtain ⟨es, hes, -⟩ := exists_list_of_contains_join hc (isName_controlFile (by simp)) hhas
      rw [manifestFiles, hes] at h
      cases h
    · exact exists_failsFirst_of_manifests hd hfiles h
  obtain ⟨files, hfiles, ms, hms, hb₂⟩ := (addManifests_eq_ok_iff he₁).1 h₂
  have he₂ : TextEncoding.ofLabel? b₂.encoding = some e := by rw [← hb₂]; exact he
  rcases h with h | ⟨b₃, h₃, h⟩
  · exact exists_failsFirst_of_metadata hd hfiles hms ((addMetadata_eq_error_iff he₂).1 h)
  obtain ⟨m, hm, hb₃⟩ := (addMetadata_eq_ok_iff he₂).1 h₃
  have he₃ : TextEncoding.ofLabel? b₃.encoding = some e := by rw [← hb₃]; exact he₂
  obtain ⟨hcontains, h⟩ := (addFetchListIn_eq_error_iff he₃).1 h
  exact ⟨_, failsFirst_of_fetchList hd hfiles hms hm hcontains h⟩

/-! ### What an error says -/

/-- The directory has a file of this name. -/
def HasFile (t : FileTree) (c : Path) (n : String) : Prop :=
  ∃ es b, t.list c = .ok es ∧ (n, FileTree.file b) ∈ es

/-- The directory has no entry of this name. -/
def LacksEntry (t : FileTree) (c : Path) (n : String) : Prop :=
  ∃ es, t.list c = .ok es ∧ n ∉ es.map Prod.fst

/-- The file that the metadata in a directory are read from. -/
inductive IsMetadataFile (t : FileTree) (c : Path) : String → Prop where
  | current : IsMetadataFile t c metadataFile
  | legacy (lacks : LacksEntry t c metadataFile) : IsMetadataFile t c legacyMetadataFile

theorem IsMetadataFile.isName {n : String} (h : IsMetadataFile t c n) : IsName n := by
  cases h with
  | current => exact isName_controlFile (by simp)
  | legacy lacks => exact isName_controlFile (by simp)

/-- The error names the file with this name in a directory. -/
def BagError.NamesFile (x : BagError) (c : Path) (n : String) : Prop :=
  x.path? = some (c.join n) ∨ x = .unrecognizedManifestName n

/-- What an error says is true of the control files in a directory. -/
def BagError.IsTrueOf (t : FileTree) (c : Path) : BagError → Prop
  | .fileUnreadable p _ => ∃ n, IsName n ∧ p = c.join n
  | .missingFile p => p = c.join declarationFile
  | .missingField p _ => p = c.join declarationFile
  | .malformedVersion p _ _ => p = some (c.join declarationFile)
  | .unsupportedEncoding p l =>
    p = c.join declarationFile ∧ TextEncoding.ofLabel? l = none ∧
      ∃ d, (readDeclaration t p).outcome = .ok d ∧ d.encoding = l
  | .unrecognizedManifestName n => HasFile t c n
  | .malformedKeyValueLine y =>
    (y.path = c.join declarationFile ∧ y.StandsIn t .utf8) ∨
      ∃ e n, Declares t c e ∧ IsMetadataFile t c n ∧ y.path = c.join n ∧ y.StandsIn t e
  | .malformedManifestLine y =>
    ∃ e n, Declares t c e ∧ HasFile t c n ∧ Manifest.isCandidate n = true ∧ y.path = c.join n ∧
      y.StandsIn t e
  | .malformedFetchLine y _ => ∃ e, Declares t c e ∧ y.path = c.join fetchFile ∧ y.StandsIn t e
  | .configuration _ => False

theorem isTrueOf_of_declaration {b : Bag}
    (h : (addDeclaration t (c.join declarationFile) b).outcome = .error x) :
    x.NamesFile c declarationFile ∧ x.IsTrueOf t c := by
  have hn : IsName declarationFile := isName_controlFile (by simp)
  rcases addDeclaration_eq_error_iff.1 h with h | ⟨d, hd, he, rfl⟩
  · rcases readDeclaration_reports h with ⟨f, rfl⟩ | ⟨y, rfl, hy, hs⟩ | ⟨k, rfl⟩ | ⟨token, f, rfl⟩
    · exact ⟨.inl rfl, declarationFile, hn, rfl⟩
    · exact ⟨.inl (congrArg some hy), .inl ⟨hy, hs⟩⟩
    · exact ⟨.inl rfl, rfl⟩
    · exact ⟨.inl rfl, rfl⟩
  · exact ⟨.inl rfl, rfl, he, d, hd, rfl⟩

theorem isTrueOf_of_manifest (ht : t.Legal) (hr : r.absolute? = some r) (hd : Declares t c e)
    {files : List Path} (hf : manifestFiles t c = .ok files) (hp : p ∈ files)
    (h : (readManifest t e p r).outcome = .error x) :
    ∃ n, IsName n ∧ p = c.join n ∧ x.NamesFile c n ∧ x.IsTrueOf t c := by
  obtain ⟨es, hes⟩ := exists_list_of_manifestFiles hf
  have hlists : t.Lists c es := ht.lists hes
  obtain ⟨⟨n, u⟩, hmem, hentry, rfl⟩ := (mem_manifestFiles_iff hlists hf).1 hp
  obtain ⟨⟨b, hb⟩, hcand, -⟩ := isManifestEntry_iff.1 hentry
  dsimp only at hb hcand h ⊢
  subst hb
  have hn : IsName n := hlists.legal.isName (n, .file b) hmem
  have hname : (c.join n).fileName? = some n := c.fileName?_join hn.isStep hn.ne_parent
  have hhas : HasFile t c n := ⟨es, b, hes, hmem⟩
  refine ⟨n, hn, rfl, ?_⟩
  rcases readManifest_reports hname hr h with rfl | ⟨f, rfl⟩ | ⟨y, rfl, hy, hs⟩
  · exact ⟨.inr rfl, hhas⟩
  · exact ⟨.inl rfl, n, hn, rfl⟩
  · exact ⟨.inl (congrArg some hy), e, n, hd, hhas, hcand, hy, hs⟩

theorem isTrueOf_of_metadata (hd : Declares t c e) {n : String} (hn : IsMetadataFile t c n)
    (h : (readFields t e (c.join n) tagDelimiter).outcome = .error x) :
    x.NamesFile c n ∧ x.IsTrueOf t c := by
  rcases readFields_reports h with ⟨f, rfl⟩ | ⟨y, rfl, hy, hs⟩
  · exact ⟨.inl rfl, n, hn.isName, rfl⟩
  · exact ⟨.inl (congrArg some hy), .inr ⟨e, n, hd, hn, hy, hs⟩⟩

theorem isTrueOf_of_fetchList (hd : Declares t c e)
    (h : (readFetchList t e (c.join fetchFile)).outcome = .error x) :
    x.NamesFile c fetchFile ∧ x.IsTrueOf t c := by
  rcases readFetchList_reports h with ⟨f, rfl⟩ | ⟨y, f, rfl, hy, hs⟩
  · exact ⟨.inl rfl, fetchFile, isName_controlFile (by simp), rfl⟩
  · exact ⟨.inl (congrArg some hy), e, hd, hy, hs⟩

/-- The former name is not longer than the path limit allows, so the current one is not either: if no
path leads to the current name, then the directory has no such entry. -/
theorem lacksEntry_of_legacy (ht : t.Legal) (hc : c.isEmpty = false)
    (hlegacy : t.contains (c.join legacyMetadataFile) = true)
    (hcurrent : t.contains (c.join metadataFile) = false) : LacksEntry t c metadataFile := by
  have hn : IsName metadataFile := isName_controlFile (by simp)
  have hn' : IsName legacyMetadataFile := isName_controlFile (by simp)
  obtain ⟨es, hes, hlen⟩ := exists_list_of_contains_join hc hn' hlegacy
  refine ⟨es, hes, fun hmem => ?_⟩
  obtain ⟨⟨n, u⟩, hu, rfl⟩ := List.mem_map.1 hmem
  have hshort : (c.join metadataFile).text.utf8ByteSize ≤ maxPathLength :=
    Nat.le_trans (c.utf8ByteSize_join_le_join hn.isStep.head?_ne hn'.isStep.head?_ne (by decide)) hlen
  rw [(ht.lists hes).contains_join hu hshort] at hcurrent
  cases hcurrent

theorem mem_metadataReads (ht : t.Legal) (hc : c.isEmpty = false)
    (h : (p, .error x) ∈ metadataReads t e c) :
    ∃ n, IsMetadataFile t c n ∧ p = c.join n ∧
      (readFields t e (c.join n) tagDelimiter).outcome = .error x := by
  unfold metadataReads at h
  split_ifs at h with hcurrent hlegacy
  · obtain ⟨rfl, hx⟩ := Prod.mk.inj (List.mem_singleton.1 h)
    exact ⟨metadataFile, .current, rfl, Reading.verdict_eq_error_iff.1 hx.symm⟩
  · obtain ⟨rfl, hx⟩ := Prod.mk.inj (List.mem_singleton.1 h)
    have hlacks := lacksEntry_of_legacy ht hc hlegacy (by simpa using hcurrent)
    exact ⟨legacyMetadataFile, .legacy hlacks, rfl, Reading.verdict_eq_error_iff.1 hx.symm⟩
  · cases h

theorem mem_fetchReads (h : (p, .error x) ∈ fetchReads t e c) :
    p = c.join fetchFile ∧ (readFetchList t e (c.join fetchFile)).outcome = .error x := by
  unfold fetchReads at h
  split_ifs at h
  · obtain ⟨rfl, hx⟩ := Prod.mk.inj (List.mem_singleton.1 h)
    exact ⟨rfl, Reading.verdict_eq_error_iff.1 hx.symm⟩
  · cases h

/-- **The error of the first file that cannot be read** names this file, and what it says is true. -/
theorem FailsFirst.isTrueOf (ht : t.Legal) (hc : c.isEmpty = false) (hr : r.absolute? = some r)
    (h : FailsFirst t r c p x) : ∃ n, IsName n ∧ p = c.join n ∧ x.NamesFile c n ∧ x.IsTrueOf t c := by
  cases h with
  | missing lacks => exact ⟨declarationFile, isName_controlFile (by simp), rfl, .inl rfl, rfl⟩
  | declaration has fails =>
    exact ⟨declarationFile, isName_controlFile (by simp), rfl, isTrueOf_of_declaration fails⟩
  | @later _ _ e files before after declares found reads passed =>
    have hmem : (p, .error x) ∈ controlReads t e r c files := by
      rw [reads]
      exact List.mem_append_right before List.mem_cons_self
    rw [controlReads, List.mem_append, List.mem_append] at hmem
    rcases hmem with (hmem | hmem) | hmem
    · obtain ⟨q, hq, hqx⟩ := List.mem_map.1 hmem
      obtain ⟨rfl, hx⟩ := Prod.mk.inj hqx
      exact isTrueOf_of_manifest ht hr declares found hq (Reading.verdict_eq_error_iff.1 hx)
    · obtain ⟨n, hn, rfl, h⟩ := mem_metadataReads ht hc hmem
      exact ⟨n, hn.isName, rfl, isTrueOf_of_metadata declares hn h⟩
    · obtain ⟨rfl, h⟩ := mem_fetchReads hmem
      exact ⟨fetchFile, isName_controlFile (by simp), rfl, isTrueOf_of_fetchList declares h⟩

/-! ### Whole bags -/

theorem isEmpty_controlDirectory (h : r.isEmpty = false) : (controlDirectory t r).isEmpty = false := by
  have hn : IsName controlDirectoryName := by decide
  unfold controlDirectory
  dsimp only
  split
  · exact Path.isEmpty_join hn.isStep
  · exact h

/-- **Why a bag is not read.** Every error of a bag is that of the first control file that cannot be
read. It names this file, and what it says is true. -/
theorem readBag_isTrueOf {root : Path} (ht : t.Legal) (hroot : root.isEmpty = false)
    (h : (readBag t root).outcome = .error x) :
    ∃ r n, root.absolute? = some r ∧ IsName n ∧
      FailsFirst t r (controlDirectory t r) ((controlDirectory t r).join n) x ∧
      x.NamesFile (controlDirectory t r) n ∧ x.IsTrueOf t (controlDirectory t r) := by
  obtain ⟨r, hr⟩ := Path.exists_absolute? hroot
  rw [outcome_readBag_of_absolute? hr] at h
  have hc : (controlDirectory t r).isEmpty = false :=
    isEmpty_controlDirectory (Path.rooted_absolute? hr).isEmpty_eq_false
  obtain ⟨p, hfirst⟩ := exists_failsFirst_of_assemble hc h
  obtain ⟨n, hn, rfl, hnames, htrue⟩ := hfirst.isTrueOf ht hc (Path.absolute?_absolute? hr)
  exact ⟨r, n, hr, hn, hfirst, hnames, htrue⟩

/-- A bag whose manifest can be read. The second line of its metadata has no delimiter. -/
def undelimitedTree : FileTree :=
  .directory [("bag", .directory
    [("bagit.txt", .file (Encoding.Utf8.encode
        "BagIt-Version: 1.0\nTag-File-Character-Encoding: UTF-8\n")),
      ("manifest-md5.txt", .file (Encoding.Utf8.encode "abc data/x\n")),
      ("bag-info.txt", .file (Encoding.Utf8.encode "Contact: me\nno field\n"))])]

theorem legal_undelimitedTree : undelimitedTree.Legal := by
  decide

/-- Its error names the metadata. -/
theorem readBag_isTrueOf_undelimited :
    ∃ x, undelimitedTree.Legal ∧ Path.isEmpty ⟨"/bag"⟩ = false ∧
      (readBag undelimitedTree ⟨"/bag"⟩).outcome = .error x ∧
      x = .malformedKeyValueLine ⟨⟨"/bag/bag-info.txt"⟩, 2, "no field"⟩ ∧
      ∃ r n, Path.absolute? ⟨"/bag"⟩ = some r ∧ IsName n ∧
        FailsFirst undelimitedTree r (controlDirectory undelimitedTree r)
          ((controlDirectory undelimitedTree r).join n) x ∧
        x.NamesFile (controlDirectory undelimitedTree r) n ∧
        x.IsTrueOf undelimitedTree (controlDirectory undelimitedTree r) := by
  have hr : Path.absolute? ⟨"/bag"⟩ = some ⟨"/bag"⟩ := rfl
  have hfiles : manifestFiles undelimitedTree ⟨"/bag"⟩ = .ok [⟨"/bag/manifest-md5.txt"⟩] :=
    congrArg Except.ok (List.mergeSort_singleton _)
  have hdecl : (addDeclaration undelimitedTree ⟨"/bag/bagit.txt"⟩ (.new ⟨"/bag"⟩)).outcome =
      .ok ((Bag.new ⟨"/bag"⟩).withDeclaration ⟨1, 0⟩ "UTF-8") := rfl
  obtain ⟨b, hmanifests, he⟩ : ∃ b, (addManifests undelimitedTree ⟨"/bag"⟩
      ((Bag.new ⟨"/bag"⟩).withDeclaration ⟨1, 0⟩ "UTF-8")).outcome = .ok b ∧
        TextEncoding.ofLabel? b.encoding = some .utf8 :=
    ⟨_, (addManifests_eq_ok_iff (e := .utf8) rfl).2 ⟨_, hfiles, _, rfl, rfl⟩, rfl⟩
  have hmetadata : (addMetadata undelimitedTree ⟨"/bag"⟩ b).outcome =
      .error (.malformedKeyValueLine ⟨⟨"/bag/bag-info.txt"⟩, 2, "no field"⟩) :=
    (addMetadata_eq_error_iff he).2 rfl
  have hb : (readBag undelimitedTree ⟨"/bag"⟩).outcome =
      .error (.malformedKeyValueLine ⟨⟨"/bag/bag-info.txt"⟩, 2, "no field"⟩) := by
    rw [outcome_readBag_of_absolute? hr, assemble_eq_error_iff]
    exact .inr ⟨rfl, .inr ⟨_, hdecl, .inr ⟨_, hmanifests, .inl hmetadata⟩⟩⟩
  exact ⟨_, legal_undelimitedTree, rfl, hb, rfl, readBag_isTrueOf legal_undelimitedTree rfl hb⟩

end ArchivalBag

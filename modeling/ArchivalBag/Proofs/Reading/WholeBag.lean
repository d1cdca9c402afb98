import ArchivalBag.Proofs.Reading.ManifestSearch
import ArchivalBag.Proofs.Reading.Stages

/-!
# A whole bag is read back

A bag is drafted, its files are stored in a directory, and the directory is read: what is found is the
bag that was drafted, with absolute paths. The steps of the reader are taken one by one, each with the
part of the draft that it adds.

* `outcome_addDeclaration`, `outcome_addManifests`, `outcome_addMetadata`, `outcome_addFetchListIn`: the
  steps.
* `readBag_stored`: the whole bag.
-/

namespace ArchivalBag

open Text Encoding FileTree

/-- The bag that the steps of the reader build from a draft whose manifests are found in some order. -/
def BagDraft.bag (d : BagDraft) (ms : List ManifestDraft) (r : Path) : Bag :=
  let found := ms.map fun m => (m.kind, m.manifest r)
  ((((Bag.new r).withDeclaration d.version "UTF-8").withManifests (ofKind .payload found)
    (ofKind .tag found)).withMetadata (.ofList d.fields)).withFetchItems (d.items.map FetchDraft.item)

/-- The label of the encoding that drafts are stored in. -/
theorem ofLabel?_utf8 : TextEncoding.ofLabel? "UTF-8" = some .utf8 := by
  decide

section Steps
variable {t : FileTree} {root r : Path} {es : List (String × FileTree)} {d : BagDraft}
  (h : t.DirectoryAt root r es) (hw : d.IsWritable) (hs : d.StoredIn r es)

include h hs

/-- The control files are in the directory itself. -/
theorem controlDirectory_eq : controlDirectory t r = r := by
  have hn : IsName controlDirectoryName :=
    ⟨⟨by decide, by decide, by decide⟩, by decide, by decide, by decide⟩
  rw [controlDirectory, (hs.lists h).isDirectory_join_eq_false hn hs.notMem_control]
  rfl

/-- **The declaration** is added. -/
theorem outcome_addDeclaration (b : Bag) :
    (addDeclaration t (r.join declarationFile) b).outcome =
      .ok (b.withDeclaration d.version "UTF-8") := by
  have hread := outcome_readDeclaration h hs.declaration (hs.short _ List.mem_cons_self)
  exact addDeclaration_eq_ok_iff.2 ⟨_, .utf8, hread, ofLabel?_utf8, rfl⟩

include hw

/-- **The manifests** are added. -/
theorem outcome_addManifests :
    ∃ ms : List ManifestDraft, ms.Perm d.manifests ∧
      ∀ b : Bag, TextEncoding.ofLabel? b.encoding = some .utf8 → b.root = r →
        (addManifests t r b).outcome =
          .ok (b.withManifests (ofKind .payload (ms.map fun m => (m.kind, m.manifest r)))
            (ofKind .tag (ms.map fun m => (m.kind, m.manifest r)))) := by
  obtain ⟨ms, hms, hfiles⟩ := exists_manifestFiles_eq h hw hs
  have hread := outcome_readManifests h hw hs fun m hm => hms.mem_iff.1 hm
  refine ⟨ms, hms, fun b he hroot => (addManifests_eq_ok_iff he).2 ⟨_, hfiles, _, ?_, rfl⟩⟩
  rw [hroot]
  exact hread

/-- **The metadata** are added. -/
theorem outcome_addMetadata {b : Bag} (he : TextEncoding.ofLabel? b.encoding = some .utf8) :
    (addMetadata t r b).outcome = .ok (b.withMetadata (.ofList d.fields)) := by
  have hn := hs.short metadataFile (by simp [BagDraft.fileNames])
  have hread : (readMetadata t .utf8 r).outcome = .ok (.ofList d.fields) := by
    rw [readMetadata]
    rw [if_pos ((hs.lists h).contains_join hs.metadata hn), Reading.outcome_bind_of_ok rfl]
    exact outcome_readFields h hs.metadata hn hw.isUnmarked_metadata hw.isField
  exact (addMetadata_eq_ok_iff he).2 ⟨_, hread, rfl⟩

/-- **The fetch list** is added. -/
theorem outcome_addFetchListIn {b : Bag} (he : TextEncoding.ofLabel? b.encoding = some .utf8) :
    (addFetchListIn t r b).outcome = .ok (b.withFetchItems (d.items.map FetchDraft.item)) := by
  have hn := hs.short fetchFile (by simp [BagDraft.fileNames])
  have hread := outcome_readFetchList h hs.fetch hn hw.isFetch
  have hcontains := (hs.lists h).contains_join hs.fetch hn
  exact (addFetchListIn_eq_ok_iff he).2 (Or.inr ⟨hcontains, _, hread, rfl⟩)

/-- All steps together. -/
theorem outcome_assemble :
    ∃ ms : List ManifestDraft, ms.Perm d.manifests ∧ (assemble t r r).outcome = .ok (d.bag ms r) := by
  obtain ⟨ms, hms, hmanifests⟩ := outcome_addManifests h hw hs
  have hcontains := (hs.lists h).contains_join hs.declaration (hs.short _ List.mem_cons_self)
  exact ⟨ms, hms, assemble_eq_ok_iff.2 ⟨hcontains, _, outcome_addDeclaration h hs _, _,
    hmanifests _ ofLabel?_utf8 rfl, _, outcome_addMetadata h hw hs ofLabel?_utf8,
    outcome_addFetchListIn h hw hs ofLabel?_utf8⟩⟩

theorem outcome_readBag :
    ∃ ms : List ManifestDraft, ms.Perm d.manifests ∧ (readBag t root).outcome = .ok (d.bag ms r) := by
  obtain ⟨ms, hms, hassemble⟩ := outcome_assemble h hw hs
  refine ⟨ms, hms, ?_⟩
  rw [outcome_readBag_of_absolute? h.absolute?_eq, controlDirectory_eq h hs]
  exact hassemble

end Steps

/-- What the steps build is the bag that was drafted. -/
theorem isReadAs_bag {d : BagDraft} (hw : d.IsWritable) {ms : List ManifestDraft}
    (hms : ms.Perm d.manifests) (r : Path) : d.IsReadAs r (d.bag ms r) where
  root := rfl
  version := rfl
  encoding := rfl
  payloadManifests := areReadAs_sortManifests hw hms .payload r
  tagManifests := areReadAs_sortManifests hw hms .tag r
  metadata := Metadata.entries_ofList hw.nodup_keys
  fetchItems := rfl

/-- Whatever is read is the bag of any draft that has these files. -/
theorem isReadAs_of_readBag {t : FileTree} {root r : Path} {es : List (String × FileTree)}
    {d : BagDraft} (h : t.DirectoryAt root r es) (hw : d.IsWritable) (hs : d.StoredIn r es) {b : Bag}
    (hb : (readBag t root).outcome = .ok b) : d.IsReadAs r b := by
  obtain ⟨ms, hms, hread⟩ := outcome_readBag h hw hs
  rw [hread] at hb
  obtain rfl := Except.ok.inj hb
  exact isReadAs_bag hw hms r

/-- **A bag is read as it was drafted.** -/
theorem readBag_stored {t : FileTree} {root r : Path} {es : List (String × FileTree)} {d : BagDraft}
    (h : t.DirectoryAt root r es) (hw : d.IsWritable) (hs : d.StoredIn r es) :
    ∃ b, (readBag t root).outcome = .ok b ∧ d.IsReadAs r b := by
  obtain ⟨ms, -, hread⟩ := outcome_readBag h hw hs
  exact ⟨d.bag ms r, hread, isReadAs_of_readBag h hw hs hread⟩

/-- A draft with a manifest of each kind. -/
def pageDraft : BagDraft where
  version := ⟨1, 0⟩
  manifests :=
    [⟨.tag, "md5", [("5d41", "/bagit.txt")]⟩, ⟨.payload, "sha1", [("aaf4", "data/page 1.txt")]⟩,
      ⟨.payload, "md5", [("b1d5", "data//p"), ("c2e6", "data/p")]⟩]
  fields := [("Title", "A page"), ("Note", "12: 30\n and later")]
  items :=
    [⟨"file:///p", ⟨⟨"file".toList, some ⟨[], [], .name [], none⟩, "/p".toList, none, none⟩,
      .known 12, "data/p 1.txt"⟩⟩]

theorem isWritable_pageDraft : pageDraft.IsWritable where
  isAlgorithm := by decide
  isPair := by decide
  isUnmarked := by decide
  nodup := by decide
  isField := by
    intro f hf
    rcases List.mem_cons.1 hf with rfl | hf
    · exact isFieldDraft_of_trim (by decide) (by decide) (by decide)
    · obtain rfl := List.mem_singleton.1 hf
      refine ⟨by decide, "12: 30".toList, [" and later".toList], by decide, by decide, by decide,
        fun l hl => ?_⟩
      obtain rfl := List.mem_singleton.1 hl
      exact ⟨by decide, by decide, by decide, by decide⟩
  nodup_keys := by decide
  isUnmarked_metadata := by decide
  isFetch := by decide

/-- The files of the draft, next to other entries. -/
def pageEntries : List (String × FileTree) :=
  pageDraft.entries ++ [("data", directory [("p", file [])]), (".bagit", file [])]

/-- The draft is read back from a relative path. -/
theorem readBag_stored_page :
    (directory [("bag", directory pageEntries)]).DirectoryAt ⟨"bag/."⟩ ⟨"/bag"⟩ pageEntries ∧
      pageDraft.IsWritable ∧ pageDraft.StoredIn ⟨"/bag"⟩ pageEntries ∧
      ∃ b, (readBag (directory [("bag", directory pageEntries)]) ⟨"bag/."⟩).outcome = .ok b ∧
        pageDraft.IsReadAs ⟨"/bag"⟩ b := by
  have h : (directory [("bag", directory pageEntries)]).DirectoryAt ⟨"bag/."⟩ ⟨"/bag"⟩ pageEntries :=
    ⟨by decide, rfl, by decide⟩
  have hcand : Manifest.isCandidate ".bagit" = false := by decide
  have hs : pageDraft.StoredIn ⟨"/bag"⟩ pageEntries :=
    BagDraft.storedIn_entries_append (by simp [controlDirectoryName]) (by simp [hcand]) (by decide)
  exact ⟨h, isWritable_pageDraft, hs, readBag_stored h isWritable_pageDraft hs⟩

/-- A draft with one field. -/
def fieldDraft (key value : String) : BagDraft where
  version := ⟨1, 0⟩
  manifests := []
  fields := [(key, value)]
  items := []

/-- A key with a colon is not read back: another field has the same line. -/
theorem not_isReadAs_of_colon_in_key :
    let d := fieldDraft "Contact: Phone" "12"
    let t := directory [("bag", directory d.entries)]
    t.DirectoryAt ⟨"/bag"⟩ ⟨"/bag"⟩ d.entries ∧ d.StoredIn ⟨"/bag"⟩ d.entries ∧
      (d.manifests.map fun m => (m.kind, m.algorithm)).Nodup ∧ (d.fields.map Prod.fst).Nodup ∧
      ¬ ∃ b, (readBag t ⟨"/bag"⟩).outcome = .ok b ∧ d.IsReadAs ⟨"/bag"⟩ b := by
  intro d t
  -- the other field
  have he : d.entries = (fieldDraft "Contact" "Phone: 12").entries := rfl
  have hw : (fieldDraft "Contact" "Phone: 12").IsWritable := by
    refine ⟨by decide, by decide, by decide, by decide, fun f hf => ?_, by decide, by decide, by decide⟩
    obtain rfl := List.mem_singleton.1 hf
    exact isFieldDraft_of_trim (by decide) (by decide) (by decide)
  have h : t.DirectoryAt ⟨"/bag"⟩ ⟨"/bag"⟩ d.entries := ⟨by decide, rfl, by decide⟩
  have hs : ∀ k v, (fieldDraft k v).StoredIn ⟨"/bag"⟩ (fieldDraft k v).entries := by
    intro k v
    rw [← List.append_nil (fieldDraft k v).entries]
    refine BagDraft.storedIn_entries_append (by simp) (by simp) ?_
    show ∀ n ∈ [declarationFile, metadataFile, fetchFile], _
    decide
  refine ⟨h, hs _ _, by decide, by decide, ?_⟩
  rintro ⟨b, hb, hread⟩
  have hread' := isReadAs_of_readBag h hw (he ▸ hs "Contact" "Phone: 12") hb
  have hfields := hread.metadata.symm.trans hread'.metadata
  exact absurd hfields (by decide)

end ArchivalBag

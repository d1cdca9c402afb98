import ArchivalBag.Proofs.Reading.DraftFiles
import ArchivalBag.Proofs.Reading.TagFiles

/-!
# Files of a draft in a directory

The files of a draft are read from the directory that they are stored in.

* `outcome_readText`: the text of a stored file.
* `outcome_readDeclaration`, `outcome_readManifest`, `outcome_readMetadata`, `outcome_readFetchList`:
  what a stored file says.
-/

namespace ArchivalBag

open Text Encoding FileTree

/-! ### The declaration as fields -/

/-- The fields of the declaration. -/
def BagDraft.declarationFields (d : BagDraft) : List (String × String) :=
  [(Declaration.versionKey, d.version.text), (Declaration.encodingKey, "UTF-8")]

theorem declarationText_eq (d : BagDraft) :
    d.declarationText = endedText (d.declarationFields.map fieldLine) := by
  have h : Declaration.versionKey ++ ": " = "BagIt-Version: " := by decide
  have h' : fieldLine (Declaration.encodingKey, "UTF-8") = "Tag-File-Character-Encoding: UTF-8" := by
    decide
  rw [BagDraft.declarationText, BagDraft.declarationFields, List.map_cons, List.map_cons, h',
    fieldLine, h]
  rfl

theorem isBlank_of_mem_version {v : Version} {c : Char} (hc : c ∈ v.text.toList) :
    isBlank c = false := by
  rw [Version.text, String.toList_ofList] at hc
  rcases List.mem_append.1 hc with hc | hc
  · exact isBlank_of_isDigit (isDigit_of_mem_writeWord hc)
  · rcases List.mem_cons.1 hc with rfl | hc
    · decide
    · exact isBlank_of_isDigit (isDigit_of_mem_writeWord hc)

/-- A field whose value is a trimmed line. -/
theorem isFieldDraft_of_trim {k v : String} (hk : IsKeyDraft k) (hv : trim v.toList = v.toList)
    (hn : '\n' ∉ v.toList) : IsFieldDraft (k, v) where
  isKey := hk
  value := by
    refine ⟨v.toList, [], ?_, hv, hn, by simp⟩
    rw [Block.foldText_nil, String.ofList_toList, String.append_empty]

theorem isFieldDraft_of_mem_declaration {d : BagDraft} :
    ∀ f ∈ d.declarationFields, IsFieldDraft f := by
  intro f hf
  rcases List.mem_cons.1 hf with rfl | hf
  · have hv : ∀ c ∈ d.version.text.toList, isBlank c = false := fun _ hc => isBlank_of_mem_version hc
    refine isFieldDraft_of_trim (by decide) (trim_of_forall hv) fun hn => ?_
    exact absurd (hv _ hn) (by decide)
  · obtain rfl := List.mem_singleton.1 hf
    exact isFieldDraft_of_trim (by decide) (by decide) (by decide)

theorem isUnmarked_declarationText (d : BagDraft) : IsUnmarked d.declarationText := by
  unfold IsUnmarked BagDraft.declarationText endedText
  rw [String.toList_ofList, List.flatMap_cons, String.toList_append]
  exact fun h => absurd (Option.some.inj h) (by decide)

/-- A fetch list starts with a URL, and so with no byte order mark. -/
theorem isUnmarked_fetchText {items : List FetchDraft} (h : ∀ i ∈ items, i.IsWritable) :
    IsUnmarked (endedText (items.map FetchDraft.line)) := by
  cases items with
  | nil => exact fun hm => by cases hm
  | cons i items =>
    have hi := h i List.mem_cons_self
    obtain ⟨c, cs, hc⟩ := List.exists_cons_of_ne_nil hi.isField.1
    intro hm
    have hhead : i.url.toList.head? = some markChar := by
      unfold endedText at hm
      rw [String.toList_ofList, List.map_cons, List.flatMap_cons, FetchDraft.line_eq_gappedLine,
        FetchDraft.toList_gappedLine, hc] at hm
      rw [hc]
      exact hm
    have herr := Url.parse_eq_error_of_cons hhead (by decide) (by decide) (by decide) (by decide)
    rw [hi.parse] at herr
    cases herr

/-! ### Files in a directory -/

section Stored
variable {t : FileTree} {root r : Path} {es : List (String × FileTree)} (h : t.DirectoryAt root r es)

include h

/-- The directory is listed by its absolute path. -/
theorem BagDraft.StoredIn.lists {d : BagDraft} (hs : d.StoredIn r es) : t.Lists r es :=
  h.lists_of_join (h.legal.isName _ hs.declaration) (hs.short _ List.mem_cons_self)

/-- **The text of a stored file.** -/
theorem readText_stored {n text : String} (hmem : (n, textFile text) ∈ es)
    (hlen : (r.join n).text.utf8ByteSize ≤ maxPathLength) (hu : IsUnmarked text) :
    readText t .utf8 (r.join n) = pure text := by
  have hl := h.lists_of_join (h.legal.isName _ hmem) hlen
  rw [readText_eq_of_read (hl.read_join hmem hlen), TextEncoding.decodeFile?_encode hu]
  rfl

theorem outcome_readFields {n : String} {fields : List (String × String)}
    (hmem : (n, textFile (endedText (fields.map fieldLine))) ∈ es)
    (hlen : (r.join n).text.utf8ByteSize ≤ maxPathLength)
    (hu : IsUnmarked (endedText (fields.map fieldLine))) (hf : ∀ f ∈ fields, IsFieldDraft f) :
    (readFields t .utf8 (r.join n) tagDelimiter).outcome = .ok (.ofList fields) := by
  rw [readFields, readText_stored h hmem hlen hu, Reading.pure_bind]
  exact parseFields_draft _ hf

/-- **The declaration of a draft.** -/
theorem outcome_readDeclaration {n : String} {d : BagDraft}
    (hmem : (n, textFile d.declarationText) ∈ es)
    (hlen : (r.join n).text.utf8ByteSize ≤ maxPathLength) :
    (readDeclaration t (r.join n)).outcome = .ok ⟨d.version, "UTF-8"⟩ := by
  have hu := isUnmarked_declarationText d
  rw [declarationText_eq] at hmem hu
  have hfields := outcome_readFields h hmem hlen hu isFieldDraft_of_mem_declaration
  have hv : (Metadata.ofList d.declarationFields).get? Declaration.versionKey =
      some d.version.text := rfl
  have he : (Metadata.ofList d.declarationFields).get? Declaration.encodingKey = some "UTF-8" := rfl
  rw [readDeclaration, Reading.outcome_bind_of_ok rfl, Reading.outcome_bind_of_ok hfields,
    Declaration.ofFields, Declaration.require, hv]
  dsimp only
  rw [Reading.pure_bind, Reading.outcome_bind_of_ok rfl, Declaration.require, he]
  dsimp only
  rw [Reading.pure_bind, Reading.outcome_bind_of_ok rfl, Declaration.parseVersion, Version.parse_text]
  rfl

/-- **The fetch list of a draft.** -/
theorem outcome_readFetchList {n : String} {items : List FetchDraft}
    (hmem : (n, textFile (endedText (items.map FetchDraft.line))) ∈ es)
    (hlen : (r.join n).text.utf8ByteSize ≤ maxPathLength) (hi : ∀ i ∈ items, i.IsWritable) :
    (readFetchList t .utf8 (r.join n)).outcome = .ok (items.map FetchDraft.item) := by
  rw [readFetchList, readText_stored h hmem hlen (isUnmarked_fetchText hi), Reading.pure_bind]
  exact parseFetchList_draft hi

theorem fileName?_stored {m : ManifestDraft} (hmem : (m.fileName, textFile m.text) ∈ es) :
    (r.join m.fileName).fileName? = some m.fileName := by
  have hn := h.legal.isName _ hmem
  exact r.fileName?_join hn.isStep hn.ne_parent

/-- **A manifest of a draft.** -/
theorem outcome_readManifest {m : ManifestDraft} (ha : Manifest.IsAlgorithm m.algorithm)
    (hp : ∀ x ∈ m.pairs, IsPairDraft x) (hu : IsUnmarked m.text)
    (hmem : (m.fileName, textFile m.text) ∈ es)
    (hlen : (r.join m.fileName).text.utf8ByteSize ≤ maxPathLength) :
    (readManifest t .utf8 (r.join m.fileName) r).outcome =
      .ok (.ofList m.algorithm (m.pairs.map (belowRoot r))) := by
  have hname := fileName?_stored h hmem
  have halg : Manifest.algorithm? m.fileName = some m.algorithm := Manifest.algorithm?_fileName ha m.kind
  refine readManifest_eq_ok_iff.2 ⟨m.text, by rw [readText_stored h hmem hlen hu]; rfl, ?_⟩
  exact parseManifest_draft ⟨m.fileName, hname, halg⟩ (Path.absolute?_absolute? h.absolute?_eq) hp

end Stored

end ArchivalBag

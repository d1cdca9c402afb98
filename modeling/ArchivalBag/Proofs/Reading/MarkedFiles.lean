import ArchivalBag.Proofs.Encoding.Marks
import ArchivalBag.Proofs.Reading.ControlTexts

/-!
# Control files with byte order marks

The declaration of a bag is in UTF-8 and its other control files are in the declared encoding. Whether
any of them starts with the mark of its encoding makes no difference to the bag, since one such mark is
dropped. No more than one is, and no mark of another encoding.

* `SameButMark`: what a path leads to, with and without a mark.
* `SameButMarks`: the control files in a directory, some of them with a mark and without one.
* `byteOrderMark_neutral`: bags that differ in marks only are read alike; what else starts with a mark.
-/

namespace ArchivalBag

open FileTree

variable {t t' : FileTree} {e : TextEncoding} {c p : Path}

/-- The same, or a file that did not start with the mark of an encoding and now does. -/
inductive SameButMark (e : TextEncoding) : Finding → Finding → Prop where
  | same (f : Finding) : SameButMark e f f
  | marked {b : List UInt8} (h : ¬ e.mark <+: b) : SameButMark e (.file b) (.file (e.mark ++ b))

/-- **Some control files in a directory got a mark**: the declaration that of UTF-8, the others that of
the encoding which the declaration names. All others are the same. -/
structure SameButMarks (t t' : FileTree) (c : Path) : Prop where
  declaration : SameButMark .utf8 (t.find (c.join declarationFile)) (t'.find (c.join declarationFile))
  manifests : ∀ e, Declares t c e → ∀ n, IsName n → Manifest.isCandidate n = true →
    SameButMark e (t.find (c.join n)) (t'.find (c.join n))
  metadata : ∀ e, Declares t c e →
    SameButMark e (t.find (c.join metadataFile)) (t'.find (c.join metadataFile))
  legacyMetadata : ∀ e, Declares t c e →
    SameButMark e (t.find (c.join legacyMetadataFile)) (t'.find (c.join legacyMetadataFile))
  fetchList : ∀ e, Declares t c e →
    SameButMark e (t.find (c.join fetchFile)) (t'.find (c.join fetchFile))

/-! ### The texts of marked files -/

/-- A file that got a mark has the same text. -/
theorem SameButMark.sameText (h : SameButMark e (t.find p) (t'.find p)) : SameText t t' e p := by
  generalize hf : t.find p = f at h
  generalize hf' : t'.find p = f' at h
  cases h with
  | same => exact sameText_of_find_eq (hf.trans hf'.symm)
  | marked hb =>
    refine ⟨(contains_of_find_eq_file hf).trans (contains_of_find_eq_file hf').symm, fun _ => ?_⟩
    rw [readText_eq_of_read (read_eq_ok_iff.2 hf), readText_eq_of_read (read_eq_ok_iff.2 hf'),
      TextEncoding.decodeFile?_mark_append hb]

theorem SameButMark.sameFileText (h : SameButMark e (t.find p) (t'.find p)) : SameFileText t t' e p where
  isFile := by
    rw [Bool.eq_iff_iff, isFile_iff, isFile_iff]
    generalize t.find p = f at h
    generalize t'.find p = f' at h
    cases h with
    | same => rfl
    | marked => exact ⟨fun _ => ⟨_, rfl⟩, fun _ => ⟨_, rfl⟩⟩
  text hf := by
    obtain ⟨b, hb⟩ := isFile_iff.1 hf
    exact h.sameText.text (contains_of_find_eq_file hb)

theorem SameButMarks.sameControlTexts (h : SameButMarks t t' c) : SameControlTexts t t' c where
  declaration := h.declaration.sameText
  later e he :=
    { manifests := fun n hn hc => (h.manifests e he n hn hc).sameFileText
      metadata := (h.metadata e he).sameText
      legacyMetadata := fun _ => (h.legacyMetadata e he).sameText
      fetchList := (h.fetchList e he).sameText }

/-! ### Bags with marked files -/

/-- **Byte order marks are neutral.** A bag is read alike, with the same result and by the same events,
whichever of its control files got the mark of its encoding. Of a file that starts with such a mark
already, another one is the first character of the text; and the mark of another encoding belongs to what
is read, in whichever encoding, be it one without a mark. -/
theorem byteOrderMark_neutral :
    (∀ (t t' : FileTree) (root : Path), t.Legal → t'.Legal →
      (∀ r, root.absolute? = some r → t.isDirectory (r.join controlDirectoryName) =
        t'.isDirectory (r.join controlDirectoryName)) →
      (∀ r, root.absolute? = some r → SameButMarks t t' (controlDirectory t r)) →
      readBag t root = readBag t' root) ∧
    (∀ (t t' : FileTree) (e : TextEncoding) (p : Path) (b : List UInt8), e.mark ≠ [] → e.mark <+: b →
      t.read p = .ok b → t'.read p = .ok (e.mark ++ b) →
      readText t' e p = withMark <$> readText t e p) ∧
    (∀ (t : FileTree) (e e' : TextEncoding) (p : Path) (b : List UInt8), e'.mark ≠ [] → e ≠ e' →
      e'.mark <+: b → t.read p = .ok b →
      readText t e p = (e.decode? b).elim (.fail (.fileUnreadable p (.notText e.name))) pure) := by
  refine ⟨fun t t' root ht ht' hdir h => ?_, fun t t' e p b he hb hr hr' => ?_,
    fun t e e' p b he' hne hb hr => ?_⟩
  · exact readBag_congr ht ht' hdir fun r hr => (h r hr).sameControlTexts
  · rw [readText_eq_of_read hr, readText_eq_of_read hr', TextEncoding.decodeFile?_mark_append_mark he hb]
    cases e.decodeFile? b <;> rfl
  · obtain ⟨b, rfl⟩ := hb
    rw [readText_eq_of_read hr, TextEncoding.decodeFile?_foreign_mark_append he' hne]

/-- A bag in UTF-16, by the bytes of its control files. -/
def utf16Tree (declaration manifest metadata : List UInt8) : FileTree :=
  .directory [("bag", .directory [("bagit.txt", .file declaration),
    ("manifest-md5.txt", .file manifest), ("bag-info.txt", .file metadata)])]

/-- What it declares. -/
def utf16Declaration : List UInt8 :=
  Encoding.Utf8.encode "BagIt-Version: 1.0\nTag-File-Character-Encoding: UTF-16LE\n"

/-- Its manifest. -/
def utf16Manifest : List UInt8 :=
  Encoding.Utf16.encode .little "abc data/x\n".toList

/-- Its metadata. -/
def utf16Metadata : List UInt8 :=
  Encoding.Utf16.encode .little "A:b\n".toList

/-- The mark of the declared encoding in front of some bytes. -/
def markedUtf16 (b : List UInt8) : List UInt8 :=
  (TextEncoding.utf16 .little).mark ++ b

theorem sameButMark_manifest {d m i d' i' : List UInt8} (ht : (utf16Tree d m i).Legal)
    (ht' : (utf16Tree d' (markedUtf16 m) i').Legal) (hm : ¬ (TextEncoding.utf16 .little).mark <+: m) {n : String}
    (hn : IsName n) (hc : Manifest.isCandidate n = true) :
    SameButMark (.utf16 .little) ((utf16Tree d m i).find (Path.join ⟨"/bag"⟩ n))
      ((utf16Tree d' (markedUtf16 m) i').find (Path.join ⟨"/bag"⟩ n)) := by
  have hlists : (utf16Tree d m i).Lists ⟨"/bag"⟩ _ := ht.lists rfl
  have hlists' : (utf16Tree d' (markedUtf16 m) i').Lists ⟨"/bag"⟩ _ := ht'.lists rfl
  by_cases hname : n = "manifest-md5.txt"
  · rw [hname]
    exact .marked hm
  · have hno : n ∉ ["bagit.txt", "manifest-md5.txt", "bag-info.txt"] := by
      simp only [List.mem_cons, List.not_mem_nil, or_false, not_or]
      refine ⟨?_, hname, ?_⟩
      all_goals
        rintro rfl
        revert hc
        decide
    rw [hlists.find_join_eq_absent hn hno, hlists'.find_join_eq_absent hn hno]
    exact .same _

/-- The bag is the same with marks and without them. -/
theorem byteOrderMark_neutral_utf16 :
    ∃ t t' t'' : FileTree,
      t = utf16Tree utf16Declaration utf16Manifest utf16Metadata ∧
      t' = utf16Tree (TextEncoding.utf8.mark ++ utf16Declaration) (markedUtf16 utf16Manifest)
        (markedUtf16 utf16Metadata) ∧
      t'' = utf16Tree utf16Declaration utf16Manifest (markedUtf16 (markedUtf16 utf16Metadata)) ∧
      t.Legal ∧ t'.Legal ∧ SameButMarks t t' ⟨"/bag"⟩ ∧ readBag t ⟨"/bag"⟩ = readBag t' ⟨"/bag"⟩ ∧
      readText t'' (.utf16 .little) ⟨"/bag/bag-info.txt"⟩ =
        withMark <$> readText t' (.utf16 .little) ⟨"/bag/bag-info.txt"⟩ ∧
      readText t' .userDefined ⟨"/bag/bag-info.txt"⟩ =
        pure "\uF7FF\uF7FEA\x00:\x00b\x00\n\x00" := by
  obtain ⟨hneutral, honce, hforeign⟩ := byteOrderMark_neutral
  refine ⟨_, _, _, rfl, rfl, rfl, ?_⟩
  have ht : (utf16Tree utf16Declaration utf16Manifest utf16Metadata).Legal := by decide
  have ht' : (utf16Tree (TextEncoding.utf8.mark ++ utf16Declaration) (markedUtf16 utf16Manifest)
      (markedUtf16 utf16Metadata)).Legal := by decide
  have hmarks : SameButMarks (utf16Tree utf16Declaration utf16Manifest utf16Metadata)
      (utf16Tree (TextEncoding.utf8.mark ++ utf16Declaration) (markedUtf16 utf16Manifest)
        (markedUtf16 utf16Metadata)) ⟨"/bag"⟩ := by
    have hdeclares : ∀ e, Declares (utf16Tree utf16Declaration utf16Manifest utf16Metadata) ⟨"/bag"⟩ e →
        e = .utf16 .little := by
      rintro e ⟨d, hd, he⟩
      have h : (readDeclaration (utf16Tree utf16Declaration utf16Manifest utf16Metadata)
        ⟨"/bag/bagit.txt"⟩).outcome = .ok ⟨⟨1, 0⟩, "UTF-16LE"⟩ := rfl
      obtain rfl := Except.ok.inj (h.symm.trans hd)
      exact (Option.some.inj he).symm
    refine ⟨.marked (by decide), ?_, ?_, fun _ _ => .same _, fun _ _ => .same _⟩
    · intro e he n hn hc
      rw [hdeclares e he]
      exact sameButMark_manifest ht ht' (by decide) hn hc
    · intro e he
      rw [hdeclares e he]
      exact .marked (by decide)
  refine ⟨ht, ht', hmarks, hneutral _ _ _ ht ht' ?_ ?_, ?_, ?_⟩
  · intro r hr
    obtain rfl := Option.some.inj hr
    rfl
  · intro r hr
    obtain rfl := Option.some.inj hr
    exact hmarks
  · exact honce _ _ _ _ _ (by decide) ⟨_, rfl⟩ rfl rfl
  · rw [hforeign _ .userDefined (.utf16 .little) _ _ (by decide) (by decide) ⟨_, rfl⟩ rfl]
    rfl

end ArchivalBag

import ArchivalBag.Proofs.Reading.DraftLimits

/-!
# What files of fields can say

A file of fields leaves keys that the front of a line can hold, and values whose lines can stand behind
the delimiter and in folds. All such metadata come from a file: written line by line they are read back,
so to read, to write and to read again is to read once.

* `valueLines`: the lines of a value; `valueLines_eq_cons_iff`: a value is its lines with line feeds
  between them.
* `Metadata.IsWritable`: the metadata that a file can say.
* `Metadata.writtenLines`: the lines of a file that says them, each with a carriage return at its end;
  `isCut_writtenLines`: they are cut into one block for each field.
* `parseFields_image`: what is read are the writable metadata.
-/

namespace ArchivalBag

open Text

/-! ### The lines of a value -/

/-- The lines of a value: the one that stands behind the delimiter, and those of the folds. -/
def valueLines (v : String) : List (List Char) :=
  v.toList.splitOn '\n'

theorem intercalate_eq_append_flatMap (first : List Char) (folds : List (List Char)) :
    ['\n'].intercalate (first :: folds) = first ++ folds.flatMap ('\n' :: ·) := by
  induction folds generalizing first with
  | nil => simp
  | cons l folds ih =>
    rw [List.intercalate_cons_cons, ih, List.flatMap_cons, List.append_assoc]
    rfl

theorem toList_append_foldText (first : List Char) (folds : List (List Char)) :
    (String.ofList first ++ Block.foldText folds).toList = ['\n'].intercalate (first :: folds) := by
  rw [String.toList_append, Block.foldText, String.toList_ofList, String.toList_ofList,
    intercalate_eq_append_flatMap]

/-- **A value is its lines** with line feeds between them, and the lines hold none. -/
theorem valueLines_eq_cons_iff {v : String} {first : List Char} {folds : List (List Char)} :
    valueLines v = first :: folds ↔
      v = String.ofList first ++ Block.foldText folds ∧ ∀ l ∈ first :: folds, '\n' ∉ l := by
  constructor
  · intro h
    refine ⟨String.toList_inj.1 ?_, fun l hl => ?_⟩
    · rw [toList_append_foldText, ← h]
      exact (List.intercalate_splitOn '\n').symm
    · rw [← h] at hl
      exact notMem_of_mem_splitOn hl
  · rintro ⟨rfl, hn⟩
    rw [valueLines, toList_append_foldText]
    exact List.splitOn_intercalate '\n' hn (List.cons_ne_nil first folds)

theorem exists_valueLines_eq_cons (v : String) : ∃ first folds, valueLines v = first :: folds :=
  List.exists_cons_of_ne_nil (List.splitOn_ne_nil '\n' v.toList)

/-! ### Writable metadata -/

/-- A key and a value that a line and its folds give: the first line of the value has no blanks around
it, and each further line is not empty and starts with a blank. -/
structure IsWritableField (f : String × String) : Prop where
  isKey : IsKeyDraft f.1
  trim_first : ∀ l ∈ (valueLines f.2).head?, trim l = l
  isFold : ∀ l ∈ (valueLines f.2).tail, isFold l = true

/-- Metadata that a file of fields can say. -/
structure Metadata.IsWritable (m : Metadata) : Prop where
  nodup_keys : m.keys.Nodup
  isField : ∀ f ∈ m.entries, IsWritableField f

/-- The block of a field: the key, the delimiter and the first line of the value, then its folds. -/
def fieldBlock (f : String × String) : Block where
  head := f.1.toList ++ tagDelimiter.toList ++ (valueLines f.2).headD []
  folds := (valueLines f.2).tail

/-- The lines of the fields, one field after the other, each line with a carriage return at its end. -/
def Metadata.writtenLines (m : Metadata) : List String :=
  ((m.entries.map fieldBlock).flatMap Block.lines).map fun l => String.ofList (l ++ ['\r'])

/-! ### What is read is writable -/

/-- What a block without line feeds gives is writable. -/
theorem isWritableField_of_says {b : Block} (hb : b.WellFormed) {f : String × String}
    (h : b.Says tagDelimiter.toList f) (hnl : ∀ l ∈ b.lines, '\n' ∉ l) : IsWritableField f := by
  obtain ⟨hkey, first, hval, htrim, hfirst⟩ := exists_of_says hb h (hnl b.head List.mem_cons_self)
  have hlines : valueLines f.2 = first :: b.folds := by
    refine valueLines_eq_cons_iff.2 ⟨hval, fun l hl => ?_⟩
    rcases List.mem_cons.1 hl with rfl | hl
    · exact hfirst
    · exact hnl l (List.mem_cons_of_mem b.head hl)
  refine ⟨hkey, fun l hl => ?_, fun l hl => ?_⟩
  · rw [hlines] at hl
    obtain rfl := Option.some.inj hl
    exact htrim
  · rw [hlines] at hl
    exact hb.2 l hl

/-- **What is read is writable.** -/
theorem isWritable_of_parseFields {source : Path} {lines : List String} {m : Metadata}
    (hl : ∀ l ∈ lines, '\n' ∉ l.toList)
    (h : (parseFields source tagDelimiter lines).outcome = .ok m) : m.IsWritable := by
  obtain ⟨bs, fields, hc, hs⟩ := exists_cut (acceptable_of_parseFields h)
  have hm := parseFields_of_cut source hc hs
  rw [h] at hm
  obtain rfl := Except.ok.inj hm
  refine ⟨(Metadata.ofList fields).nodup_keys, fun f hf => ?_⟩
  obtain ⟨b, hb, hsays⟩ := exists_mem_of_forall₂ hs (Metadata.mem_of_mem_ofList hf)
  refine isWritableField_of_says (hc.wellFormed b hb) hsays fun t ht => ?_
  have hmem : t ∈ lines.filterMap content? := by
    rw [hc.eq]
    exact List.mem_flatMap.2 ⟨b, hb, ht⟩
  obtain ⟨l, hmem, hcontent⟩ := List.mem_filterMap.1 hmem
  exact notMem_of_content?_eq_some hcontent (hl l hmem)

/-! ### What is written is read back -/

section Block
variable {f : String × String} (h : IsWritableField f)

include h

theorem wellFormed_fieldBlock : (fieldBlock f).WellFormed := by
  refine ⟨?_, h.isFold⟩
  show isFold (f.1.toList ++ tagDelimiter.toList ++ (valueLines f.2).headD []) = false
  rw [List.append_assoc]
  exact isFold_key_append h.isKey _

theorem says_fieldBlock : (fieldBlock f).Says tagDelimiter.toList f := by
  obtain ⟨first, folds, hlines⟩ := exists_valueLines_eq_cons f.2
  have htrim : trim first = first := h.trim_first first (by rw [hlines]; rfl)
  have hkey := isKeyLine_append h.isKey first
  rw [htrim] at hkey
  refine ⟨String.ofList first, ?_, ?_⟩
  · rw [fieldBlock, hlines]
    exact hkey
  · rw [fieldBlock, hlines]
    exact (valueLines_eq_cons_iff.1 hlines).1

/-- The lines of a block say something and hold no line feed. -/
theorem lines_fieldBlock {l : List Char} (hl : l ∈ (fieldBlock f).lines) : l ≠ [] ∧ '\n' ∉ l := by
  obtain ⟨first, folds, hlines⟩ := exists_valueLines_eq_cons f.2
  have hn := (valueLines_eq_cons_iff.1 hlines).2
  rw [Block.lines, fieldBlock, hlines] at hl
  rcases List.mem_cons.1 hl with rfl | hl
  · refine ⟨by simp [h.isKey.toList_ne_nil], fun hmem => ?_⟩
    rw [List.mem_append, List.mem_append] at hmem
    rcases hmem with (hmem | hmem) | hmem
    · exact (h.isKey.plain _ hmem).2 rfl
    · exact absurd hmem (by decide)
    · exact hn first List.mem_cons_self hmem
  · have hfold := h.isFold l (by rw [hlines]; exact hl)
    refine ⟨?_, hn l (List.mem_cons_of_mem first hl)⟩
    rintro rfl
    cases hfold

end Block

section Written
variable {m : Metadata} (h : m.IsWritable)

include h

/-- The lines are cut into the blocks of the fields. -/
theorem isCut_writtenLines :
    IsCut (m.writtenLines.filterMap content?) (m.entries.map fieldBlock) where
  eq := by
    refine filterMap_content?_return fun l hl => ?_
    obtain ⟨b, hb, hl⟩ := List.mem_flatMap.1 hl
    obtain ⟨f, hf, rfl⟩ := List.mem_map.1 hb
    exact (lines_fieldBlock (h.isField f hf) hl).1
  wellFormed b hb := by
    obtain ⟨f, hf, rfl⟩ := List.mem_map.1 hb
    exact wellFormed_fieldBlock (h.isField f hf)

theorem notMem_writtenLines : ∀ l ∈ m.writtenLines, '\n' ∉ l.toList := by
  intro l hl
  obtain ⟨t, ht, rfl⟩ := List.mem_map.1 hl
  obtain ⟨b, hb, ht⟩ := List.mem_flatMap.1 ht
  obtain ⟨f, hf, rfl⟩ := List.mem_map.1 hb
  rw [String.toList_ofList, List.mem_append, not_or]
  exact ⟨(lines_fieldBlock (h.isField f hf) ht).2, by decide⟩

/-- **What is written is read back.** -/
theorem parseFields_writtenLines (source : Path) :
    (parseFields source tagDelimiter m.writtenLines).outcome = .ok m := by
  have hs : List.Forall₂ (Block.Says tagDelimiter.toList) (m.entries.map fieldBlock) m.entries := by
    rw [List.forall₂_map_left_iff, List.forall₂_same]
    exact fun f hf => says_fieldBlock (h.isField f hf)
  have hm := parseFields_of_cut source (isCut_writtenLines h) hs
  rwa [Metadata.ofList_entries] at hm

end Written

/-- **What files of fields say** are the writable metadata. Those can be written as lines that hold no
line feed, and what is written is read back, so that nothing that was read is lost by writing it and
reading it again. -/
theorem parseFields_image (source : Path) (m : Metadata) :
    (m.IsWritable ↔ ∃ lines : List String, (∀ l ∈ lines, '\n' ∉ l.toList) ∧
      (parseFields source tagDelimiter lines).outcome = .ok m) ∧
    (m.IsWritable → (∀ l ∈ m.writtenLines, '\n' ∉ l.toList) ∧
      (parseFields source tagDelimiter m.writtenLines).outcome = .ok m) ∧
    ∀ lines : List String, (∀ l ∈ lines, '\n' ∉ l.toList) →
      (parseFields source tagDelimiter lines).outcome = .ok m →
      (parseFields source tagDelimiter m.writtenLines).outcome = .ok m := by
  have hwritten : m.IsWritable → (∀ l ∈ m.writtenLines, '\n' ∉ l.toList) ∧
      (parseFields source tagDelimiter m.writtenLines).outcome = .ok m :=
    fun h => ⟨notMem_writtenLines h, parseFields_writtenLines h source⟩
  refine ⟨⟨fun h => ⟨m.writtenLines, hwritten h⟩, ?_⟩, hwritten, ?_⟩
  · rintro ⟨lines, hl, hm⟩
    exact isWritable_of_parseFields hl hm
  · intro lines hl hm
    exact (hwritten (isWritable_of_parseFields hl hm)).2

/-- Lines with a key that is given twice, a fold of nothing but a blank, and carriage returns. -/
def unevenLines : List String :=
  ["Inner key : a:b ", "Empty:", "", "Note: old", " gone", "Note:new\r", " kept\r\r", "\t"]

/-- What is left of them is written evenly, and read back. -/
theorem parseFields_image_uneven :
    (∀ l ∈ unevenLines, '\n' ∉ l.toList) ∧
      ∃ m, (parseFields ⟨"bag-info.txt"⟩ tagDelimiter unevenLines).outcome = .ok m ∧
        m.entries = [("Inner key", "a:b"), ("Empty", ""), ("Note", "new\n kept\r\n\t")] ∧
        m.writtenLines = ["Inner key:a:b\r", "Empty:\r", "Note:new\r", " kept\r\r", "\t\r"] ∧
        m.IsWritable ∧ (parseFields ⟨"bag-info.txt"⟩ tagDelimiter m.writtenLines).outcome = .ok m := by
  have hl : ∀ l ∈ unevenLines, '\n' ∉ l.toList := by decide
  have hm : (parseFields ⟨"bag-info.txt"⟩ tagDelimiter unevenLines).outcome =
      .ok (.ofList [("Inner key", "a:b"), ("Empty", ""), ("Note", "new\n kept\r\n\t")]) := rfl
  have himage := parseFields_image ⟨"bag-info.txt"⟩
    (.ofList [("Inner key", "a:b"), ("Empty", ""), ("Note", "new\n kept\r\n\t")])
  exact ⟨hl, _, hm, rfl, rfl, himage.1.2 ⟨_, hl, hm⟩, himage.2.2 _ hl hm⟩

end ArchivalBag

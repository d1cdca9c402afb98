import ArchivalBag.Proofs.Encoding.Marks
import ArchivalBag.Proofs.Encoding.Utf8.WellFormed
import ArchivalBag.Proofs.Reading.TagFiles

/-!
# Texts are read without loss

In the encodings that have bytes for every text, a file says no more and no less than its bytes: what is
read is written as the bytes of the file without their mark, and bytes that no text is written as are
reported. Nothing is replaced on the way.

* `UnicodeEncoding`: these encodings, with the bytes of a text and the grammar of such bytes.
* `IsBody`: the bytes of a file behind its mark.
* `outcome_readText_eq_ok_iff`, `outcome_readText_eq_error_iff`: the text of a file, or its fault.
* `readText_lossless`: both, and that every text is read back.
-/

namespace ArchivalBag

open Encoding

/-- An encoding that has bytes for every text. -/
inductive UnicodeEncoding where
  | utf8
  | utf16 (order : Utf16.ByteOrder)

namespace UnicodeEncoding

/-- As one of the encodings of tag files. -/
def encoding : UnicodeEncoding → TextEncoding
  | utf8 => .utf8
  | utf16 o => .utf16 o

/-- The bytes of a text. -/
def encode : UnicodeEncoding → String → List UInt8
  | utf8, s => Utf8.encode s
  | utf16 o, s => Utf16.encode o s.toList

/-- The bytes follow the grammar of the encoding. -/
def WellFormed : UnicodeEncoding → List UInt8 → Prop
  | utf8 => Utf8.WellFormed
  | utf16 o => Utf16.WellFormed o

/-- The byte order mark. -/
def mark (e : UnicodeEncoding) : List UInt8 :=
  e.encoding.mark

variable {e : UnicodeEncoding} {b rest : List UInt8} {s : String}

theorem decode?_eq_some_iff : e.encoding.decode? b = some s ↔ b = e.encode s := by
  cases e with
  | utf8 => exact Utf8.decode?_eq_some_iff
  | utf16 o =>
    show (Utf16.decode? o b).map String.ofList = some s ↔ b = Utf16.encode o s.toList
    rw [← Utf16.decode?_eq_some_iff, Option.map_eq_some_iff]
    constructor
    · rintro ⟨cs, hcs, rfl⟩
      rw [hcs, String.toList_ofList]
    · intro h
      exact ⟨s.toList, h, String.ofList_toList⟩

theorem wellFormed_iff : e.WellFormed b ↔ ∃ s, b = e.encode s := by
  cases e with
  | utf8 => exact Utf8.wellFormed_iff
  | utf16 o =>
    refine Utf16.wellFormed_iff.trans ⟨?_, ?_⟩
    · rintro ⟨cs, rfl⟩
      exact ⟨String.ofList cs, by rw [encode, String.toList_ofList]⟩
    · rintro ⟨s, rfl⟩
      exact ⟨s.toList, rfl⟩

theorem decode?_eq_none_iff : e.encoding.decode? b = none ↔ ¬ e.WellFormed b := by
  rw [wellFormed_iff, Option.eq_none_iff_forall_not_mem]
  simp only [Option.mem_def, decode?_eq_some_iff, not_exists]

/-! ### Behind the mark -/

/-- The bytes of a file behind its byte order mark, or all of them if it has none. -/
def IsBody (e : UnicodeEncoding) (b rest : List UInt8) : Prop :=
  b = e.mark ++ rest ∨ ¬ e.mark <+: b ∧ b = rest

theorem isBody_iff : e.IsBody b rest ↔ e.encoding.body b = rest := by
  constructor
  · rintro (rfl | ⟨h, rfl⟩)
    · exact TextEncoding.body_mark_append e.encoding rest
    · exact TextEncoding.body_of_not_isPrefix h
  · rintro rfl
    by_cases h : e.mark <+: b
    · obtain ⟨r, rfl⟩ := h
      rw [mark, TextEncoding.body_mark_append]
      exact .inl rfl
    · exact .inr ⟨h, (TextEncoding.body_of_not_isPrefix h).symm⟩

theorem mark_ne_nil (e : UnicodeEncoding) : e.mark ≠ [] := by
  cases e with
  | utf8 => exact TextEncoding.mark_ne_nil_iff.2 (.inl rfl)
  | utf16 o => exact TextEncoding.mark_ne_nil_iff.2 (.inr ⟨o, rfl⟩)

/-- The bytes of a text start with the mark only if the text starts with its character. -/
theorem head?_of_mark_isPrefix (h : e.mark <+: e.encode s) : s.toList.head? = some markChar := by
  obtain ⟨r, hr⟩ := h
  have hs : e.encoding.decode? (e.mark ++ r) = some s := decode?_eq_some_iff.2 hr
  rw [mark, TextEncoding.decode?_mark_append e.mark_ne_nil] at hs
  obtain ⟨s', -, rfl⟩ := Option.map_eq_some_iff.1 hs
  rw [withMark, String.toList_ofList]
  rfl

end UnicodeEncoding

/-! ### Files -/

section File
variable {t : FileTree} {p : Path} {b rest : List UInt8} (h : t.read p = .ok b)

variable {e : UnicodeEncoding} (hrest : e.IsBody b rest)

include h hrest

/-- **The text of a file** is written as the bytes behind its mark. -/
theorem outcome_readText_eq_ok_iff {s : String} :
    (readText t e.encoding p).outcome = .ok s ↔ rest = e.encode s := by
  rw [readText_eq_of_read h, TextEncoding.decodeFile?, UnicodeEncoding.isBody_iff.1 hrest,
    ← UnicodeEncoding.decode?_eq_some_iff]
  cases e.encoding.decode? rest <;> simp

/-- **Bytes that no text is written as** are the fault of a file that has been found. -/
theorem outcome_readText_eq_error_iff {x : BagError} :
    (readText t e.encoding p).outcome = .error x ↔
      ¬ e.WellFormed rest ∧ x = .fileUnreadable p (.notText e.encoding.name) := by
  rw [readText_eq_of_read h, TextEncoding.decodeFile?, UnicodeEncoding.isBody_iff.1 hrest,
    ← UnicodeEncoding.decode?_eq_none_iff]
  cases e.encoding.decode? rest <;> simp [eq_comm]

end File

/-- **Nothing is lost and nothing is made up.** The text of a file is written as the bytes of the file
without one mark at their start, and there is no text exactly if these bytes do not follow the grammar of
the encoding; the file is then reported by its path. Every text is read back from its bytes behind a
mark, and from its bytes alone if it does not start with the character of the mark. -/
theorem readText_lossless (e : UnicodeEncoding) {t : FileTree} {p : Path} {b : List UInt8}
    (h : t.read p = .ok b) :
    (∃ rest, e.IsBody b rest) ∧
    (∀ rest, e.IsBody b rest →
      (∀ s, (readText t e.encoding p).outcome = .ok s ↔ rest = e.encode s) ∧
      ∀ x, (readText t e.encoding p).outcome = .error x ↔
        ¬ e.WellFormed rest ∧ x = .fileUnreadable p (.notText e.encoding.name)) ∧
    ∀ s, (b = e.mark ++ e.encode s → (readText t e.encoding p).outcome = .ok s) ∧
      (b = e.encode s → s.toList.head? ≠ some markChar →
        (readText t e.encoding p).outcome = .ok s) := by
  refine ⟨⟨_, UnicodeEncoding.isBody_iff.2 rfl⟩, fun rest hrest => ⟨fun s => ?_, fun x => ?_⟩,
    fun s => ⟨fun hb => ?_, fun hb hs => ?_⟩⟩
  · exact outcome_readText_eq_ok_iff h hrest
  · exact outcome_readText_eq_error_iff h hrest
  · exact (outcome_readText_eq_ok_iff h (.inl hb)).2 rfl
  · have hno : ¬ e.mark <+: b := fun hm => hs (UnicodeEncoding.head?_of_mark_isPrefix (hb ▸ hm))
    exact (outcome_readText_eq_ok_iff h (.inr ⟨hno, rfl⟩)).2 hb

/-- The bytes of two marks and of a character that takes two units, and of one half of it. -/
def twoMarks : List UInt8 × List UInt8 :=
  ([0xFF, 0xFE, 0xFF, 0xFE, 0x3D, 0xD8, 0x00, 0xDE], [0x3D, 0xD8, 0x0A, 0x00])

/-- The second mark is a character of the text, and half a character makes the file unreadable. -/
theorem readText_lossless_twoMarks :
    (FileTree.directory [("a", .file twoMarks.1), ("b", .file twoMarks.2)]).read ⟨"/a"⟩ = .ok twoMarks.1 ∧
      (FileTree.directory [("a", .file twoMarks.1), ("b", .file twoMarks.2)]).read ⟨"/b"⟩ =
        .ok twoMarks.2 ∧
      (readText (.directory [("a", .file twoMarks.1), ("b", .file twoMarks.2)]) (.utf16 .little)
        ⟨"/a"⟩).outcome = .ok "\uFEFF😀" ∧
      (readText (.directory [("a", .file twoMarks.1), ("b", .file twoMarks.2)]) (.utf16 .little)
        ⟨"/b"⟩).outcome = .error (.fileUnreadable ⟨"/b"⟩ (.notText "UTF-16LE")) := by
  have ha : (FileTree.directory [("a", .file twoMarks.1), ("b", .file twoMarks.2)]).read ⟨"/a"⟩ =
      .ok twoMarks.1 := rfl
  have hb : (FileTree.directory [("a", .file twoMarks.1), ("b", .file twoMarks.2)]).read ⟨"/b"⟩ =
      .ok twoMarks.2 := rfl
  have hbody : (UnicodeEncoding.utf16 .little).IsBody twoMarks.2 twoMarks.2 := .inr ⟨by decide, rfl⟩
  have hbad : ¬ Utf16.WellFormed .little twoMarks.2 := by
    intro h
    cases h with
    | single hh _ _ => exact absurd hh (by decide)
    | pair _ hl _ => exact absurd hl (by decide)
  refine ⟨ha, hb, ((readText_lossless (.utf16 .little) ha).2.2 "\uFEFF😀").1 (by decide), ?_⟩
  exact (((readText_lossless (.utf16 .little) hb).2.1 _ hbody).2 _).2 ⟨hbad, rfl⟩

end ArchivalBag

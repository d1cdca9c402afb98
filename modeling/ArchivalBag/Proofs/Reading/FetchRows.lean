import ArchivalBag.Proofs.Reading.DraftFiles

/-!
# Fetch lists are read as they are written

An item is written as a line of its URL, its length and its path, with any gaps between them, and lists
of such lines are read back: the gaps do not count, and the path is kept as it is.

* `FetchRow`: an item and the gaps of its line.
* `outcome_parseFetchList_rows`: written items are read back.
* `parseFetchList_grammar`: the lists that can be read, what they say, and that they can be written.
-/

namespace ArchivalBag

open Text

/-- An item with the gaps between the fields of its line. -/
structure FetchRow where
  draft : FetchDraft
  gap : String
  gap' : String

namespace FetchRow

/-- The line of an item. -/
def line (x : FetchRow) : String :=
  x.draft.gappedLine x.gap x.gap'

/-- A line can hold the item and the gaps. -/
structure IsWritable (x : FetchRow) : Prop where
  draft : x.draft.IsWritable
  gap : IsLineGap x.gap
  gap' : IsLineGap x.gap'

theorem isFetchLine_line {x : FetchRow} (h : x.IsWritable) :
    IsFetchLine x.line.toList x.draft.item :=
  FetchDraft.isFetchLine_gappedLine h.draft h.gap h.gap'

theorem isPlainLine_line {x : FetchRow} (h : x.IsWritable) : IsPlainLine x.line.toList :=
  FetchDraft.isPlainLine_gappedLine h.draft h.gap h.gap'

end FetchRow

/-- **Written items are read back** from their lines, whether these are given one by one or as a text. -/
theorem outcome_parseFetchList_rows (source : Path) {rows : List FetchRow}
    (h : ∀ x ∈ rows, x.IsWritable) :
    (parseFetchList source (rows.map FetchRow.line)).outcome =
        .ok (rows.map fun x => x.draft.item) ∧
      (parseFetchList source (lines (endedText (rows.map FetchRow.line)))).outcome =
        .ok (rows.map fun x => x.draft.item) := by
  have hplain : ∀ l ∈ rows.map FetchRow.line, IsPlainLine l.toList := by
    intro l hl
    obtain ⟨x, hx, rfl⟩ := List.mem_map.1 hl
    exact FetchRow.isPlainLine_line (h x hx)
  have hlines : List.Forall₂ IsFetchLine ((rows.map FetchRow.line).map String.toList)
      (rows.map fun x => x.draft.item) := by
    rw [List.forall₂_map_left_iff, List.forall₂_map_left_iff, List.forall₂_map_right_iff,
      List.forall₂_same]
    exact fun x hx => FetchRow.isFetchLine_line (h x hx)
  constructor
  · rw [parseFetchList_eq_ok_iff, filterMap_content?_of_isPlainLine hplain]
    exact hlines
  · rw [parseFetchList_eq_ok_iff, content_endedText hplain]
    exact hlines

/-- **What a fetch list says.** It can be read exactly if each content line has the form of an item, and
the items that it says are those of its content lines, one for each and in their order. Items that lines
can hold are read back from their lines, with any gaps between the fields. -/
theorem parseFetchList_grammar (source : Path) :
    (∀ lines, (∃ items, (parseFetchList source lines).outcome = .ok items) ↔
      ∀ t ∈ lines.filterMap content?, HasFetchForm t) ∧
    (∀ lines items, (parseFetchList source lines).outcome = .ok items ↔
      List.Forall₂ IsFetchLine (lines.filterMap content?) items) ∧
    ∀ rows : List FetchRow, (∀ x ∈ rows, x.IsWritable) →
      (parseFetchList source (rows.map FetchRow.line)).outcome =
          .ok (rows.map fun x => x.draft.item) ∧
        (parseFetchList source (lines (endedText (rows.map FetchRow.line)))).outcome =
          .ok (rows.map fun x => x.draft.item) :=
  ⟨fun _ => exists_parseFetchList_iff, fun _ _ => parseFetchList_eq_ok_iff,
    fun _ h => outcome_parseFetchList_rows source h⟩

/-- Two items with different gaps and with a path that holds blanks. -/
def gappedRows : List FetchRow :=
  let u : Url := ⟨"file".toList, some ⟨[], [], .name [], none⟩, "/p".toList, none, none⟩
  [⟨⟨"file:///p", ⟨u, .known 7, "data/a b "⟩⟩, "\t ", "\u3000"⟩,
    ⟨⟨"file:///p", ⟨u, .unknown, "data/c"⟩⟩, " ", "\x0b"⟩]

/-- These items are read back. -/
theorem parseFetchList_grammar_gappedRows :
    (∀ x ∈ gappedRows, x.IsWritable) ∧
      gappedRows.map FetchRow.line =
        ["file:///p\t 7\u3000data/a b ", "file:///p -\x0bdata/c"] ∧
      (parseFetchList ⟨"/bag/fetch.txt"⟩ (gappedRows.map FetchRow.line)).outcome =
        .ok (gappedRows.map fun x => x.draft.item) := by
  have h : ∀ x ∈ gappedRows, x.IsWritable := by
    intro x hx
    rcases List.mem_cons.1 hx with rfl | hx
    · exact ⟨by decide, by decide, by decide⟩
    · obtain rfl := List.mem_singleton.1 hx
      exact ⟨by decide, by decide, by decide⟩
  exact ⟨h, by decide, ((parseFetchList_grammar ⟨"/bag/fetch.txt"⟩).2.2 gappedRows h).1⟩

end ArchivalBag

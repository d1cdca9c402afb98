import ArchivalBag.Proofs.Lists
import ArchivalBag.Proofs.Reading.LineGrammar
import ArchivalBag.Proofs.Reading.LineReader
import ArchivalBag.Proofs.Text.ContentLines

/-!
# What a fetch list says

A fetch list can be read exactly if each of its content lines has the form of an item, and it then says
one item for each of them, in their order.

* `HasFetchForm`: the form of a line; `exists_isFetchLine_iff`: such a line is that of an item.
* `parseFetchList_eq_ok_iff`: the items of a file.
* `exists_parseFetchList_iff`: when there are items at all.
-/

namespace ArchivalBag

open Text

/-! ### The form of a line -/

/-- The form of a line: a URL, a gap, a hyphen or digits of a number of 64 bits, a gap, and a path that
does not start with a blank. -/
def HasFetchForm (t : List Char) : Prop :=
  ∃ url gap length gap' path, t = url ++ gap ++ length ++ gap' ++ path ∧
    IsField url ∧ IsGap gap ∧ IsField length ∧ IsGap gap' ∧ IsRest path ∧
    (∃ u, Url.parse (String.ofList url) = .ok u) ∧
    (length = ['-'] ∨ (length ≠ [] ∧ (∀ c ∈ length, c.isDigit = true) ∧
      digitsValue length ≤ 0xFFFFFFFFFFFFFFFF))

/-- The tokens that stand for a length. -/
theorem exists_isLength_iff {token : List Char} :
    (∃ l, IsLength token l) ↔
      token = ['-'] ∨ (token ≠ [] ∧ (∀ c ∈ token, c.isDigit = true) ∧
        digitsValue token ≤ 0xFFFFFFFFFFFFFFFF) := by
  constructor
  · rintro ⟨l, hl⟩
    cases l with
    | unknown => exact Or.inl hl
    | known n =>
      obtain ⟨hne, hd, hv⟩ := hl
      exact Or.inr ⟨hne, hd, hv ▸ Nat.le_of_lt_succ n.toNat_lt⟩
  · rintro (rfl | ⟨hne, hd, hv⟩)
    · exact ⟨.unknown, rfl⟩
    · exact ⟨.known (UInt64.ofNat (digitsValue token)), hne, hd,
        (UInt64.toNat_ofNat_of_lt (Nat.lt_succ_of_le hv)).symm⟩

/-- **A line of this form is that of an item.** -/
theorem exists_isFetchLine_iff {t : List Char} : (∃ i, IsFetchLine t i) ↔ HasFetchForm t := by
  constructor
  · rintro ⟨i, url, gap, length, gap', hurl, hgap, hlen, hgap', hpath, ht, hu, hl⟩
    exact ⟨url, gap, length, gap', i.path.toList, ht, hurl, hgap, hlen, hgap', hpath, ⟨_, hu⟩,
      exists_isLength_iff.1 ⟨_, hl⟩⟩
  · rintro ⟨url, gap, length, gap', path, ht, hurl, hgap, hlen, hgap', hpath, ⟨u, hu⟩, htoken⟩
    obtain ⟨l, hl⟩ := exists_isLength_iff.2 htoken
    have hp : (String.ofList path).toList = path := String.toList_ofList
    refine ⟨⟨u, l, String.ofList path⟩, url, gap, length, gap', hurl, hgap, hlen, hgap', ?_, ?_, hu, hl⟩
    · rw [hp]; exact hpath
    · rw [hp]; exact ht

/-! ### The items of a file -/

/-- Items are read one after the other. -/
theorem outcome_run_items {source : Path} {ls : List Line} {items : List FetchItem}
    (h : List.Forall₂ IsFetchLine (ls.map Line.text) items) (before : List FetchItem) :
    ((fetchReader source).run before ls).outcome = .ok (before ++ items) := by
  induction ls generalizing items before with
  | nil => cases h; rw [List.append_nil]; rfl
  | cons l ls ih =>
    cases h with
    | cons hl h =>
      rw [LineReader.outcome_run_cons_of_ok (fetchReader_step_ok (FetchItem.parse_eq_ok_iff.2 hl) before),
        ih h, List.append_assoc, List.singleton_append]

/-- What the reader does not reject are items. -/
theorem forall₂_of_run_eq_ok {source : Path} {ls : List Line} {before result : List FetchItem}
    (h : ((fetchReader source).run before ls).outcome = .ok result) :
    ∃ items, result = before ++ items ∧ List.Forall₂ IsFetchLine (ls.map Line.text) items := by
  induction ls generalizing before with
  | nil => exact ⟨[], by rw [List.append_nil]; exact (Except.ok.inj h).symm, .nil⟩
  | cons l ls ih =>
    cases hl : FetchItem.parse l.text with
    | error f => rw [LineReader.run_cons_of_error (fetchReader_step_error hl before)] at h; cases h
    | ok item =>
      rw [LineReader.outcome_run_cons_of_ok (fetchReader_step_ok hl before)] at h
      obtain ⟨items, hres, hitems⟩ := ih h
      refine ⟨item :: items, ?_, .cons (FetchItem.parse_eq_ok_iff.1 hl) hitems⟩
      rw [hres, List.append_assoc, List.singleton_append]

/-- **The items of a file** are those of its content lines, one by one. -/
theorem parseFetchList_eq_ok_iff {source : Path} {lines : List String} {items : List FetchItem} :
    (parseFetchList source lines).outcome = .ok items ↔
      List.Forall₂ IsFetchLine (lines.filterMap content?) items := by
  rw [parseFetchList_eq_run, ← map_text_contentLines]
  constructor
  · intro h
    obtain ⟨items', hres, hitems⟩ := forall₂_of_run_eq_ok h
    rw [hres, List.nil_append]
    exact hitems
  · intro h
    rw [outcome_run_items h, List.nil_append]

theorem exists_parseFetchList_iff {source : Path} {lines : List String} :
    (∃ items, (parseFetchList source lines).outcome = .ok items) ↔
      ∀ t ∈ lines.filterMap content?, HasFetchForm t := by
  simp only [parseFetchList_eq_ok_iff, exists_forall₂_iff, exists_isFetchLine_iff]

end ArchivalBag

import ArchivalBag.Proofs.Draft
import ArchivalBag.Proofs.Reading.FetchEntries
import ArchivalBag.Proofs.Url

/-!
# The files of a draft are read back

What was written line by line is read line by line. A manifest and a fetch list have one content line
for each pair and each item, and the metadata have one block for each field.

* `givesChecksum_pairLine`, `exists_block`, `isFetchLine_line`: what one line or block says.
* `parseManifest_draft`, `parseFields_draft`, `parseFetchList_draft`: what the lines of a file say.
* `parseFields_declaration`: the same of the declaration.
-/

namespace ArchivalBag

open Text Encoding

/-! ### Lines of a written text -/

theorem endedText_eq (ls : List String) :
    endedText ls = String.ofList ((ls.map String.toList).flatMap (· ++ ['\n'])) := by
  rw [endedText, List.flatMap_map]

/-- The content lines of a text are its plain lines. -/
theorem content_endedText {ls : List String} (h : ∀ l ∈ ls, IsPlainLine l.toList) :
    (lines (endedText ls)).filterMap content? = ls.map String.toList := by
  have hls : ∀ l ∈ ls.map String.toList, IsPlainLine l := by
    intro l hl
    obtain ⟨s, hs, rfl⟩ := List.mem_map.1 hl
    exact h s hs
  rw [endedText_eq, filterMap_content?_lines hls]

theorem notMem_of_isField {cs : List Char} (h : IsField cs) {c : Char} (hc : isBlank c = true) :
    c ∉ cs := by
  intro hmem
  rw [h.2 c hmem] at hc
  cases hc

theorem isLineGap_space : IsLineGap " " := by
  decide

/-! ### Pairs -/

theorem toList_pairLine (x : String × String) :
    (pairLine x).toList = x.1.toList ++ [' '] ++ x.2.toList := by
  rw [pairLine, String.toList_append, String.toList_append]
  rfl

theorem givesChecksum_pairLine {x : String × String} (h : IsPairDraft x) :
    GivesChecksum (pairLine x).toList x :=
  ⟨[' '], h.isField, isLineGap_space.isGap, h.isPath.isRest, toList_pairLine x⟩

/-- A line that ends with a path is plain if what is in front of the path holds no line feed. -/
theorem isPlainLine_append {a : List Char} (ha : '\n' ∉ a) {p : String} (h : IsPathDraft p) :
    IsPlainLine (a ++ p.toList) where
  ne_nil he := h.isRest.1 (List.append_eq_nil_iff.1 he).2
  notMem hmem := by
    rcases List.mem_append.1 hmem with hmem | hmem
    · exact ha hmem
    · exact h.notMem hmem
  getLast?_ne := by
    rw [List.getLast?_append_of_ne_nil _ h.isRest.1]
    exact h.getLast?_ne

theorem isPlainLine_pairLine {x : String × String} (h : IsPairDraft x) :
    IsPlainLine (pairLine x).toList := by
  rw [toList_pairLine]
  refine isPlainLine_append (fun hmem => ?_) h.isPath
  rcases List.mem_append.1 hmem with hmem | hmem
  · exact notMem_of_isField h.isField (by decide) hmem
  · exact absurd hmem (by decide)

/-- The lines of a manifest give its pairs. -/
theorem forall₂_givesChecksum {pairs : List (String × String)} (h : ∀ x ∈ pairs, IsPairDraft x) :
    List.Forall₂ GivesChecksum
      ((lines (endedText (pairs.map pairLine))).filterMap content?) pairs := by
  have hplain : ∀ l ∈ pairs.map pairLine, IsPlainLine l.toList := by
    intro l hl
    obtain ⟨x, hx, rfl⟩ := List.mem_map.1 hl
    exact isPlainLine_pairLine (h x hx)
  rw [content_endedText hplain, List.forall₂_map_left_iff, List.forall₂_map_left_iff,
    List.forall₂_same]
  exact fun x hx => givesChecksum_pairLine (h x hx)

/-- **A manifest is read back.** -/
theorem parseManifest_draft {file r : Path} {m : ManifestDraft} (hn : file.NamesManifest m.algorithm)
    (hr : r.absolute? = some r) (h : ∀ x ∈ m.pairs, IsPairDraft x) :
    (parseManifest file (lines m.text) r).outcome =
      .ok (.ofList m.algorithm (m.pairs.map (belowRoot r))) :=
  parseManifest_of_pairs hn hr (forall₂_givesChecksum h)

/-! ### Files that are to be fetched -/

theorem isBlank_of_isDigit {c : Char} (h : c.isDigit = true) : isBlank c = false := by
  have hd : 48 ≤ c.toNat ∧ c.toNat ≤ 57 := by
    simp only [Char.isDigit, Bool.and_eq_true, decide_eq_true_eq, UInt32.le_iff_toNat_le] at h
    exact h
  obtain ⟨h₁, h₂⟩ := hd
  unfold isBlank
  simp only [Bool.or_eq_false_iff, Bool.and_eq_false_iff, decide_eq_false_iff_not, beq_eq_false_iff_ne]
  omega

theorem isLength_text (l : FetchLength) : IsLength l.text.toList l := by
  cases l with
  | unknown => rfl
  | known n =>
    rw [FetchLength.text, String.toList_ofList]
    exact readWord_eq_ok_iff.1 (readWord_writeWord n)

theorem isField_text (l : FetchLength) : IsField l.text.toList := by
  have h := isLength_text l
  cases l with
  | unknown => rw [h]; decide
  | known n => exact ⟨h.1, fun c hc => isBlank_of_isDigit (h.2.1 c hc)⟩

namespace FetchDraft

theorem toList_gappedLine (d : FetchDraft) (gap gap' : String) :
    (d.gappedLine gap gap').toList =
      d.url.toList ++ gap.toList ++ d.item.length.text.toList ++ gap'.toList ++
        d.item.path.toList := by
  rw [gappedLine, String.toList_append, String.toList_append, String.toList_append,
    String.toList_append]

theorem line_eq_gappedLine (d : FetchDraft) : d.line = d.gappedLine " " " " :=
  rfl

section Writable
variable {d : FetchDraft} (h : d.IsWritable)

include h

section Gapped
variable {gap gap' : String} (hg : IsLineGap gap) (hg' : IsLineGap gap')

include hg hg'

theorem isFetchLine_gappedLine : IsFetchLine (d.gappedLine gap gap').toList d.item :=
  ⟨d.url.toList, gap.toList, d.item.length.text.toList, gap'.toList, h.isField, hg.isGap,
    isField_text d.item.length, hg'.isGap, h.isPath.isRest, toList_gappedLine d gap gap',
    by rw [String.ofList_toList]; exact h.parse, isLength_text d.item.length⟩

theorem isPlainLine_gappedLine : IsPlainLine (d.gappedLine gap gap').toList := by
  have hurl : '\n' ∉ d.url.toList := notMem_of_isField h.isField (by decide)
  have hlen : '\n' ∉ d.item.length.text.toList := notMem_of_isField (isField_text _) (by decide)
  rw [toList_gappedLine]
  refine isPlainLine_append ?_ h.isPath
  simp only [List.mem_append, not_or]
  exact ⟨⟨⟨hurl, hg.notMem⟩, hlen⟩, hg'.notMem⟩

end Gapped

theorem isFetchLine_line : IsFetchLine d.line.toList d.item :=
  isFetchLine_gappedLine h isLineGap_space isLineGap_space

theorem isPlainLine_line : IsPlainLine d.line.toList :=
  isPlainLine_gappedLine h isLineGap_space isLineGap_space

end Writable

end FetchDraft

/-- **A fetch list is read back.** -/
theorem parseFetchList_draft {source : Path} {items : List FetchDraft}
    (h : ∀ i ∈ items, i.IsWritable) :
    (parseFetchList source (lines (endedText (items.map FetchDraft.line)))).outcome =
      .ok (items.map FetchDraft.item) := by
  have hplain : ∀ l ∈ items.map FetchDraft.line, IsPlainLine l.toList := by
    intro l hl
    obtain ⟨i, hi, rfl⟩ := List.mem_map.1 hl
    exact FetchDraft.isPlainLine_line (h i hi)
  have hlines : List.Forall₂ IsFetchLine
      ((lines (endedText (items.map FetchDraft.line))).filterMap content?)
      (items.map FetchDraft.item) := by
    rw [content_endedText hplain, List.forall₂_map_left_iff, List.forall₂_map_left_iff,
      List.forall₂_map_right_iff, List.forall₂_same]
    exact fun i hi => FetchDraft.isFetchLine_line (h i hi)
  exact parseFetchList_eq_ok_iff.2 hlines

/-! ### Fields -/

/-- The block that a field is written as. -/
structure IsBlockOf (f : String × String) (b : Block) : Prop where
  wellFormed : b.WellFormed
  gives : b.Says tagDelimiter.toList f
  isPlain : ∀ l ∈ b.lines, IsPlainLine l
  ended : (fieldLine f).toList ++ ['\n'] = b.lines.flatMap (· ++ ['\n'])

/-- Folds behind a line, with a line feed behind each. -/
theorem ended_folds (t : List Char) (folds : List (List Char)) :
    t ++ (Block.foldText folds).toList ++ ['\n'] = (t :: folds).flatMap (· ++ ['\n']) := by
  induction folds generalizing t with
  | nil => simp [Block.foldText_nil]
  | cons f fs ih =>
    have hs : (Block.foldText (f :: fs)).toList = '\n' :: (f ++ (Block.foldText fs).toList) := by
      unfold Block.foldText
      rw [String.toList_ofList, String.toList_ofList, List.flatMap_cons, List.cons_append]
    rw [hs, List.flatMap_cons, ← ih f]
    simp

theorem IsKeyDraft.toList_ne_nil {k : String} (hk : IsKeyDraft k) : k.toList ≠ [] :=
  fun he => hk.ne_empty (String.toList_inj.1 he)

/-- What follows a key and the delimiter is its value, whatever else the value holds. -/
theorem isKeyLine_append {k : String} (hk : IsKeyDraft k) (r : List Char) :
    IsKeyLine tagDelimiter.toList (k.toList ++ [':'] ++ r) k (String.ofList (trim r)) := by
  refine ⟨k.toList, r, ?_, hk.toList_ne_nil, ?_, rfl⟩
  · exact isFirstCut_singleton_iff.2 ⟨rfl, fun hc => (hk.plain _ hc).1 rfl⟩
  · rw [hk.trim_eq, String.ofList_toList]

/-- A line that starts with a key is no fold. -/
theorem isFold_key_append {k : String} (hk : IsKeyDraft k) (r : List Char) :
    isFold (k.toList ++ r) = false := by
  obtain ⟨c, cs, hc⟩ := List.exists_cons_of_ne_nil hk.toList_ne_nil
  have hv : StartsVisible k.toList := (trim_eq_self_iff.1 hk.trim_eq).1
  rw [isFold_eq_false_iff, hc]
  rw [hc] at hv
  exact hv

theorem isKeyLine_fieldLine {k : String} (hk : IsKeyDraft k) {first : List Char}
    (hf : trim first = first) :
    IsKeyLine tagDelimiter.toList (k.toList ++ [':', ' '] ++ first) k (String.ofList first) := by
  have hline : k.toList ++ [':', ' '] ++ first = k.toList ++ [':'] ++ ' ' :: first := by simp
  have hkey := isKeyLine_append hk (' ' :: first)
  rwa [trim_cons_of_isBlank (by decide), hf, ← hline] at hkey

/-- The text of a field, with the folds that its value holds. -/
theorem ended_fieldLine {f : String × String} {first : List Char} {folds : List (List Char)}
    (h : f.2 = String.ofList first ++ Block.foldText folds) :
    (fieldLine f).toList ++ ['\n'] =
      (Block.mk (f.1.toList ++ [':', ' '] ++ first) folds).lines.flatMap (· ++ ['\n']) := by
  have hline : (fieldLine f).toList =
      f.1.toList ++ [':', ' '] ++ first ++ (Block.foldText folds).toList := by
    rw [fieldLine, h, String.toList_append, String.toList_append, String.toList_append,
      String.toList_ofList]
    simp
  rw [hline]
  exact ended_folds _ _

/-- **A field is written as a block.** -/
theorem exists_isBlockOf {f : String × String} (h : IsFieldDraft f) : ∃ b, IsBlockOf f b := by
  obtain ⟨first, folds, hval, htrim, hnl, hfolds⟩ := h.value
  have hhead : IsPlainLine (f.1.toList ++ [':', ' '] ++ first) := by
    refine ⟨by simp, fun hmem => ?_, fun hlast => ?_⟩
    · rw [List.mem_append, List.mem_append] at hmem
      rcases hmem with (hmem | hmem) | hmem
      · exact (h.isKey.plain _ hmem).2 rfl
      · exact absurd hmem (by decide)
      · exact hnl hmem
    · rw [List.getLast?_append] at hlast
      cases hl : first.getLast? with
      | none =>
        rw [hl, List.getLast?_append] at hlast
        exact absurd hlast (by simp)
      | some c =>
        rw [hl] at hlast
        obtain rfl := Option.some.inj hlast
        exact absurd (isBlank_getLast?_of_trim_eq_self htrim _ hl) (by decide)
  refine ⟨⟨f.1.toList ++ [':', ' '] ++ first, folds⟩, ⟨?_, fun l hl => (hfolds l hl).1⟩,
    ⟨_, isKeyLine_fieldLine h.isKey htrim, hval⟩, fun l hl => ?_, ended_fieldLine hval⟩
  · show isFold (f.1.toList ++ [':', ' '] ++ first) = false
    rw [List.append_assoc]
    exact isFold_key_append h.isKey _
  · rcases List.mem_cons.1 hl with rfl | hl
    · exact hhead
    · exact (hfolds l hl).2

theorem endedText_fields {fields : List (String × String)} {bs : List Block}
    (h : List.Forall₂
      (fun f b => (fieldLine f).toList ++ ['\n'] = b.lines.flatMap (· ++ ['\n'])) fields bs) :
    endedText (fields.map fieldLine) =
      String.ofList ((bs.flatMap Block.lines).flatMap (· ++ ['\n'])) := by
  unfold endedText
  congr 1
  induction h with
  | nil => rfl
  | cons hb _ ih =>
    rw [List.map_cons, List.flatMap_cons, ih, hb, List.flatMap_cons, List.flatMap_append]

/-- The lines of fields are cut into one block for each field. -/
theorem exists_cut_of_fields {fields : List (String × String)} (h : ∀ f ∈ fields, IsFieldDraft f) :
    ∃ bs, IsCut ((lines (endedText (fields.map fieldLine))).filterMap content?) bs ∧
      List.Forall₂ (Block.Says tagDelimiter.toList) bs fields := by
  obtain ⟨bs, hbs⟩ := exists_forall₂_iff.2 fun f hf => exists_isBlockOf (h f hf)
  have hmem : ∀ b ∈ bs, ∃ f, IsBlockOf f b := by
    have hflip := List.Forall₂.flip hbs
    exact fun b hb => exists_forall₂_iff.1 ⟨fields, hflip⟩ b hb
  have hplain : ∀ l ∈ bs.flatMap Block.lines, IsPlainLine l := by
    intro l hl
    obtain ⟨b, hb, hl⟩ := List.mem_flatMap.1 hl
    obtain ⟨f, hf⟩ := hmem b hb
    exact hf.isPlain l hl
  refine ⟨bs, ⟨?_, fun b hb => ?_⟩, ?_⟩
  · rw [endedText_fields (hbs.imp fun f b hb => hb.ended), filterMap_content?_lines hplain]
  · obtain ⟨f, hf⟩ := hmem b hb
    exact hf.wellFormed
  · exact List.Forall₂.flip (hbs.imp fun f b hb => hb.gives)

/-- **Fields are read back.** -/
theorem parseFields_draft (source : Path) {fields : List (String × String)}
    (h : ∀ f ∈ fields, IsFieldDraft f) :
    (parseFields source tagDelimiter (lines (endedText (fields.map fieldLine)))).outcome =
      .ok (.ofList fields) := by
  obtain ⟨bs, hc, hs⟩ := exists_cut_of_fields h
  exact parseFields_of_cut source hc hs

end ArchivalBag

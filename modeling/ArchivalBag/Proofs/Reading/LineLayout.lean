import ArchivalBag.Proofs.Reading.LineReader
import ArchivalBag.Proofs.Text.Layout

/-!
# Layouts of tag files

A reader of lines is given the content lines and their numbers, and the numbers serve to report a
rejected line only. So a reading of renumbered lines is the same reading with a renumbered report, and
the ways to end a line and to leave lines empty change nothing but the number that is reported.

* `BagError.renumber`, `Reading.renumber`: the same error and the same reading under other numbers.
* `LineReader.Renumbers`: what one step has to do; `LineReader.Renumbers.run_map`: then a run does it.
* `IgnoresLayout`: the law; `lineParsers_ignoreLayout`: it holds of fields, manifests and fetch lists.
-/

namespace ArchivalBag

open Text

variable {α β σ : Type}

/-! ### Renumbered reports -/

/-- The place of a line under another number. -/
def LineContext.renumber (f : ℕ → ℕ) (c : LineContext) : LineContext :=
  { c with number := f c.number }

/-- The error with the rejected line, if it reports one, under another number. -/
def BagError.renumber (f : ℕ → ℕ) : BagError → BagError
  | malformedKeyValueLine c => malformedKeyValueLine (c.renumber f)
  | malformedManifestLine c => malformedManifestLine (c.renumber f)
  | malformedFetchLine c fault => malformedFetchLine (c.renumber f) fault
  | e => e

theorem BagError.renumber_of_line? {e : BagError} (h : e.line? = none) (f : ℕ → ℕ) :
    e.renumber f = e := by
  cases e <;> first | rfl | cases h

/-- The reading with its error, if it has one, under another number. -/
def Reading.renumber (f : ℕ → ℕ) (x : Reading α) : Reading α :=
  ⟨x.outcome.mapError (BagError.renumber f), x.events⟩

variable {f : ℕ → ℕ}

theorem Reading.renumber_fail (e : BagError) :
    (Reading.fail e : Reading α).renumber f = .fail (e.renumber f) := rfl

/-- What does not fail is not renumbered. -/
theorem Reading.renumber_bind_of_ok {x : Reading α} {a : α} (h : x.outcome = .ok a) (g : α → Reading β) :
    (x >>= g).renumber f = x >>= fun a => (g a).renumber f := by
  rw [Reading.bind_of_ok h, Reading.bind_of_ok h]
  rfl

theorem Reading.renumber_map (g : α → β) (x : Reading α) :
    (g <$> x).renumber f = g <$> x.renumber f := by
  obtain ⟨outcome, events⟩ := x
  cases outcome <;> rfl

/-! ### From one line to a file -/

/-- A step that uses the number of a line in its report only. -/
def LineReader.Renumbers (R : LineReader σ) (f : ℕ → ℕ) : Prop :=
  ∀ s l, R.step s (l.renumber f) = (R.step s l).mapError (BagError.renumber f)

/-- **Renumbered lines are read alike.** -/
theorem LineReader.Renumbers.run_map {R : LineReader σ} (h : R.Renumbers f) (s : σ) (ls : List Line) :
    R.run s (ls.map (Line.renumber f)) = (R.run s ls).renumber f := by
  induction ls generalizing s with
  | nil => rfl
  | cons l ls ih =>
    have hl := h s l
    cases hstep : R.step s l with
    | error e =>
      rw [hstep] at hl
      rw [List.map_cons, run_cons_of_error hl, run_cons_of_error hstep, Reading.renumber_fail]
    | ok x =>
      obtain ⟨s', v⟩ := x
      rw [hstep] at hl
      rw [List.map_cons, run_cons_of_ok hl, run_cons_of_ok hstep, Reading.renumber_bind_of_ok rfl, ih]

theorem fieldReader_renumbers (source : Path) (delimiter : List Char) :
    (fieldReader source delimiter).Renumbers f := by
  intro s l
  obtain ⟨hf, hs, h⟩ | ⟨k, hf, hs, h⟩ | ⟨hf, hk, h⟩ | ⟨k, v, hf, hk, h⟩ :=
    fieldReader_step_cases source delimiter s l
  · obtain ⟨m, last⟩ := s
    subst hs
    rw [h, fieldReader_step_fold_none (l := l.renumber f) hf]
    rfl
  · obtain ⟨m, last⟩ := s
    subst hs
    rw [h, fieldReader_step_fold_some (l := l.renumber f) hf]
    rfl
  · rw [h, fieldReader_step_key_none (l := l.renumber f) hf hk]
    rfl
  · rw [h, fieldReader_step_key_some (l := l.renumber f) hf hk]
    rfl

theorem manifestReader_renumbers (file root : Path) : (manifestReader file root).Renumbers f := by
  intro m l
  cases h : manifestLine? l.text with
  | none =>
    rw [manifestReader_step_none h, manifestReader_step_none (l := l.renumber f) h]
    rfl
  | some cp =>
    rw [manifestReader_step_some h, manifestReader_step_some (l := l.renumber f) h]
    rfl

theorem fetchReader_renumbers (source : Path) : (fetchReader source).Renumbers f := by
  intro items l
  cases h : FetchItem.parse l.text with
  | error fault =>
    rw [fetchReader_step_error h, fetchReader_step_error (l := l.renumber f) h]
    rfl
  | ok item =>
    rw [fetchReader_step_ok h, fetchReader_step_ok (l := l.renumber f) h]
    rfl

/-! ### The law -/

/-- **Line ends and empty lines carry no meaning.** Whichever way some lines are laid out as a text,
they are read alike. With empty lines between them, `gap i` many in front of the line at the place `i`,
the reading is the same but for the number of a rejected line, which is raised by how many empty lines
are in front of it. -/
structure IgnoresLayout (parse : List String → Reading α) : Prop where
  lineEnds : ∀ (bodies : List (List Char)) (text text' : List Char), (∀ b ∈ bodies, IsBody b) →
    LaidOut bodies text → LaidOut bodies text' →
    parse (lines (String.ofList text')) = parse (lines (String.ofList text))
  blankLines : ∀ (bodies : List (List Char)) (text text' : List Char) (gap : ℕ → ℕ),
    (∀ b ∈ bodies, IsBody b) → LaidOut bodies text → LaidOut (withBlankLines gap bodies) text' →
    parse (lines (String.ofList text')) =
      (parse (lines (String.ofList text))).renumber fun n => n + ∑ i ∈ Finset.range n, gap i

/-- The law holds of what is given the content lines and uses their numbers to report one only. -/
theorem ignoresLayout_of_content {parse : List String → Reading α} (read : List Line → Reading α)
    (hparse : ∀ ls, parse ls = read (contentLines ls))
    (hread : ∀ (f : ℕ → ℕ) ls, read (ls.map (Line.renumber f)) = (read ls).renumber f) :
    IgnoresLayout parse where
  lineEnds bodies text text' hb h h' := by
    rw [hparse, hparse, contentLines_of_laidOut h hb, contentLines_of_laidOut h' hb]
  blankLines bodies text text' gap hb h h' := by
    rw [hparse, hparse, contentLines_of_laidOut h hb,
      contentLines_of_laidOut h' (isBody_of_mem_withBlankLines hb), contentLines_withBlankLines, hread]

/-- An error that reports no line is the same for every text. -/
theorem ignoresLayout_fail {e : BagError} (he : e.line? = none) :
    IgnoresLayout fun _ => (Reading.fail e : Reading α) :=
  ignoresLayout_of_content (fun _ => .fail e) (fun _ => rfl) fun f _ => by
    rw [Reading.renumber_fail, BagError.renumber_of_line? he]

theorem parseFields_ignoresLayout (source : Path) (delimiter : String) :
    IgnoresLayout (parseFields source delimiter) :=
  ignoresLayout_of_content
    (fun ls => Prod.fst <$> (fieldReader source delimiter.toList).run (.empty, none) ls)
    (parseFields_eq_run source delimiter) fun f ls => by
      rw [(fieldReader_renumbers source delimiter.toList).run_map, Reading.renumber_map]

/-- The lines of a manifest are not looked at if its name or its root is rejected. -/
theorem parseManifest_ignoresLayout (file root : Path) :
    IgnoresLayout fun lines => parseManifest file lines root := by
  rcases parseManifest_eq_fail_or file root with ⟨e, he, hfail⟩ | ⟨algorithm, r, hf, hr⟩
  · simp only [hfail]
    exact ignoresLayout_fail he
  · exact ignoresLayout_of_content _ (parseManifest_eq_run hf hr) fun f ls =>
      (manifestReader_renumbers file r).run_map _ ls

theorem parseFetchList_ignoresLayout (source : Path) : IgnoresLayout (parseFetchList source) :=
  ignoresLayout_of_content _ (parseFetchList_eq_run source) fun _ ls =>
    (fetchReader_renumbers source).run_map [] ls

/-- **Files of fields, manifests and fetch lists** are read by their lines, whatever these end in and
however many empty lines are between them. -/
theorem lineParsers_ignoreLayout (source : Path) :
    (∀ delimiter, IgnoresLayout (parseFields source delimiter)) ∧
      (∀ root, IgnoresLayout fun lines => parseManifest source lines root) ∧
      IgnoresLayout (parseFetchList source) :=
  ⟨parseFields_ignoresLayout source, parseManifest_ignoresLayout source,
    parseFetchList_ignoresLayout source⟩

/-- Two fields, the second without a delimiter. -/
def undelimitedFields : List (List Char) :=
  ["Contact: me".toList, "no field".toList]

/-- Empty lines in front of the second one. -/
def undelimitedGap (i : ℕ) : ℕ :=
  if i = 1 then 2 else 0

/-- The line without a delimiter is the second one, or the fourth behind two empty lines. -/
theorem lineParsers_ignoreLayout_spaced :
    (∀ b ∈ undelimitedFields, IsBody b) ∧ LaidOut undelimitedFields "Contact: me\nno field".toList ∧
      LaidOut (withBlankLines undelimitedGap undelimitedFields)
        "Contact: me\r\n\n\r\r\nno field\r".toList ∧
      (parseFields ⟨"bag-info.txt"⟩ ":" (lines "Contact: me\nno field")).outcome =
        .error (.malformedKeyValueLine ⟨⟨"bag-info.txt"⟩, 2, "no field"⟩) ∧
      (parseFields ⟨"bag-info.txt"⟩ ":" (lines "Contact: me\r\n\n\r\r\nno field\r")).outcome =
        .error (.malformedKeyValueLine ⟨⟨"bag-info.txt"⟩, 4, "no field"⟩) := by
  have hb : ∀ b ∈ undelimitedFields, IsBody b := by
    intro b hb
    rcases List.mem_cons.1 hb with rfl | hb
    · exact ⟨by decide, by decide⟩
    · rw [List.mem_singleton.1 hb]
      exact ⟨by decide, by decide⟩
  have h : LaidOut undelimitedFields "Contact: me\nno field".toList :=
    .cons "Contact: me".toList (.inl rfl) (.last "no field".toList (.inr (.inl rfl)))
  have h' : LaidOut (withBlankLines undelimitedGap undelimitedFields)
      "Contact: me\r\n\n\r\r\nno field\r".toList :=
    .cons "Contact: me".toList (.inr (.inl rfl)) <| .cons [] (.inl rfl) <| .cons [] (.inr (.inr rfl)) <|
      .last "no field".toList (.inr (.inr rfl))
  have hlines : (parseFields ⟨"bag-info.txt"⟩ ":" (lines "Contact: me\nno field")).outcome =
      .error (.malformedKeyValueLine ⟨⟨"bag-info.txt"⟩, 2, "no field"⟩) := rfl
  have hblank := ((lineParsers_ignoreLayout ⟨"bag-info.txt"⟩).1 ":").blankLines _ _ _ _ hb h h'
  rw [String.ofList_toList, String.ofList_toList] at hblank
  refine ⟨hb, h, h', hlines, ?_⟩
  rw [hblank, Reading.renumber, hlines]
  rfl

end ArchivalBag

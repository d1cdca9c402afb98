import ArchivalBag.Proofs.Reading.FirstError
import ArchivalBag.Proofs.Reading.TagFiles

/-!
# What is reported of a tag file

A tag file that cannot be read is reported by its path. If its text can be read but a line of it cannot,
then the line is reported too, with its place in the text.

* `LineContext.StandsIn`: a reported line stands in the file, under its number.
* `readFields_reports`, `readManifest_reports`, `readFetchList_reports`: what is reported of a file of
  each kind.
* `readDeclaration_reports`: the same for the declaration.
-/

namespace ArchivalBag

open Text

/-! ### Reported lines -/

/-- The line stands among some lines under its number, but for one carriage return at its end. -/
def LineContext.StandsAt (x : LineContext) (lines : List String) : Prop :=
  ∃ i l, x.number = i + 1 ∧ lines[i]? = some l ∧ x.line = String.ofList (dropReturn l.toList)

/-- The file of the line has a text in this encoding, and the line stands there. -/
def LineContext.StandsIn (x : LineContext) (t : FileTree) (e : TextEncoding) : Prop :=
  ∃ bytes text, t.read x.path = .ok bytes ∧ e.decodeFile? bytes = some text ∧
    x.StandsAt (Text.lines text)

theorem standsAt_of_contentAt? {lines : List String} {i : Nat} {t : List Char}
    (h : contentAt? lines i = some t) (source : Path) :
    (Line.context ⟨i + 1, t⟩ source).StandsAt lines := by
  obtain ⟨l, hl, ht⟩ := Option.bind_eq_some_iff.1 h
  exact ⟨i, l, rfl, hl, congrArg String.ofList (content?_eq_some_iff.1 ht).2.symm⟩

theorem LineContext.standsIn_of_readText {t : FileTree} {e : TextEncoding} {x : LineContext}
    {text : String} (h : (readText t e x.path).outcome = .ok text) (hx : x.StandsAt (Text.lines text)) :
    x.StandsIn t e := by
  obtain ⟨bytes, hread, hdec⟩ := readText_eq_ok_iff.1 h
  exact ⟨bytes, text, hread, hdec, hx⟩

/-! ### Lines of each kind -/

section Lines
variable {p root r : Path} {lines : List String} {x : BagError}

theorem parseFields_reports {delimiter : String}
    (h : (parseFields p delimiter lines).outcome = .error x) :
    ∃ y, x = .malformedKeyValueLine y ∧ y.path = p ∧ y.StandsAt lines := by
  rw [parseFields_eq_run] at h
  have hlaw := (judges_fieldReader p delimiter.toList).stopsAtFirst
    (s := (Metadata.empty, none)) (by simp) Prod.fst
  obtain ⟨i, t, hm, -, rfl⟩ := hlaw.error_of lines x h
  exact ⟨_, rfl, rfl, standsAt_of_contentAt? hm.content p⟩

theorem parseFetchList_reports (h : (parseFetchList p lines).outcome = .error x) :
    ∃ y f, x = .malformedFetchLine y f ∧ y.path = p ∧ y.StandsAt lines := by
  rw [parseFetchList_eq_map_run] at h
  have hlaw := (judges_fetchReader p).stopsAtFirst (s := []) trivial id
  obtain ⟨i, t, hm, -, f, -, rfl⟩ := hlaw.error_of lines x h
  exact ⟨_, f, rfl, rfl, standsAt_of_contentAt? hm.content p⟩

theorem parseManifest_reports {n : String} (hn : p.fileName? = some n) (hr : root.absolute? = some r)
    (h : (parseManifest p lines root).outcome = .error x) :
    x = .unrecognizedManifestName n ∨
      ∃ y, x = .malformedManifestLine y ∧ y.path = p ∧ y.StandsAt lines := by
  cases ha : Manifest.algorithm? n with
  | none =>
    simp only [parseManifest, hn, manifestAlgorithm, ha] at h
    exact Or.inl (Except.error.inj h).symm
  | some a =>
    rw [parseManifest_eq_map_run ⟨n, hn, ha⟩ hr] at h
    have hlaw := (judges_manifestReader p r).stopsAtFirst (s := Manifest.empty a) trivial id
    obtain ⟨i, t, hm, -, rfl⟩ := hlaw.error_of lines x h
    exact Or.inr ⟨_, rfl, rfl, standsAt_of_contentAt? hm.content p⟩

end Lines

/-! ### Files of each kind -/

section Files
variable {t : FileTree} {e : TextEncoding} {p root r : Path} {x : BagError}

/-- What reading the text of a file and then its lines reports. -/
theorem exists_fault_or_of_bind {α : Type} {f : String → Reading α}
    (h : (readText t e p >>= f).outcome = .error x) :
    (∃ v, x = .fileUnreadable p v) ∨
      ∃ text, (readText t e p).outcome = .ok text ∧ (f text).outcome = .error x := by
  rcases Reading.outcome_bind_eq_error_iff.1 h with h | h
  · exact Or.inl (exists_fault_of_readText h)
  · exact Or.inr h

theorem readFields_reports {delimiter : String}
    (h : (readFields t e p delimiter).outcome = .error x) :
    (∃ f, x = .fileUnreadable p f) ∨
      ∃ y, x = .malformedKeyValueLine y ∧ y.path = p ∧ y.StandsIn t e := by
  refine (exists_fault_or_of_bind h).imp_right ?_
  rintro ⟨text, htext, h⟩
  obtain ⟨y, hx, rfl, hy⟩ := parseFields_reports h
  exact ⟨y, hx, rfl, LineContext.standsIn_of_readText htext hy⟩

theorem readFetchList_reports (h : (readFetchList t e p).outcome = .error x) :
    (∃ f, x = .fileUnreadable p f) ∨
      ∃ y f, x = .malformedFetchLine y f ∧ y.path = p ∧ y.StandsIn t e := by
  refine (exists_fault_or_of_bind h).imp_right ?_
  rintro ⟨text, htext, h⟩
  obtain ⟨y, f, hx, rfl, hy⟩ := parseFetchList_reports h
  exact ⟨y, f, hx, rfl, LineContext.standsIn_of_readText htext hy⟩

theorem readManifest_reports {n : String} (hn : p.fileName? = some n) (hr : root.absolute? = some r)
    (h : (readManifest t e p root).outcome = .error x) :
    x = .unrecognizedManifestName n ∨ (∃ f, x = .fileUnreadable p f) ∨
      ∃ y, x = .malformedManifestLine y ∧ y.path = p ∧ y.StandsIn t e := by
  unfold readManifest at h
  rw [Reading.outcome_note_bind] at h
  rcases Reading.outcome_bind_eq_error_iff.1 h with h | ⟨_, -, h⟩
  · cases ha : Manifest.algorithm? n with
    | none =>
      simp only [judgeName, hn, manifestAlgorithm, ha] at h
      exact Or.inl (Except.error.inj h).symm
    | some a =>
      rw [Path.NamesManifest.judgeName_eq ⟨n, hn, ha⟩] at h
      cases h
  · rcases exists_fault_or_of_bind h with hf | ⟨text, htext, h⟩
    · exact Or.inr (Or.inl hf)
    · refine (parseManifest_reports hn hr h).imp_right fun hy => Or.inr ?_
      obtain ⟨y, hx, rfl, hy⟩ := hy
      exact ⟨y, hx, rfl, LineContext.standsIn_of_readText htext hy⟩

/-- What the fields of a declaration are reported for. -/
theorem ofFields_reports {fields : Metadata}
    (h : (Declaration.ofFields p fields).outcome = .error x) :
    (∃ k, x = .missingField p k) ∨ ∃ token f, x = .malformedVersion (some p) token f := by
  have hrequire : ∀ k, (Declaration.require p fields k).outcome = .error x → x = .missingField p k := by
    intro k hk
    unfold Declaration.require at hk
    split at hk
    · cases hk
    · exact (Except.error.inj hk).symm
  unfold Declaration.ofFields at h
  rcases Reading.outcome_bind_eq_error_iff.1 h with h | ⟨token, -, h⟩
  · exact Or.inl ⟨_, hrequire _ h⟩
  rw [Reading.outcome_note_bind] at h
  rcases Reading.outcome_bind_eq_error_iff.1 h with h | ⟨label, -, h⟩
  · exact Or.inl ⟨_, hrequire _ h⟩
  rw [Reading.outcome_note_bind] at h
  unfold Declaration.parseVersion at h
  cases hv : Version.parse token with
  | ok v => rw [hv] at h; cases h
  | error f =>
    rw [hv] at h
    exact Or.inr ⟨token, f, (Except.error.inj h).symm⟩

theorem readDeclaration_reports (h : (readDeclaration t p).outcome = .error x) :
    (∃ f, x = .fileUnreadable p f) ∨
      (∃ y, x = .malformedKeyValueLine y ∧ y.path = p ∧ y.StandsIn t .utf8) ∨
      (∃ k, x = .missingField p k) ∨ ∃ token f, x = .malformedVersion (some p) token f := by
  unfold readDeclaration at h
  rw [Reading.outcome_note_bind] at h
  rcases Reading.outcome_bind_eq_error_iff.1 h with h | ⟨fields, -, h⟩
  · exact (readFields_reports h).imp_right Or.inl
  · exact Or.inr (Or.inr (ofFields_reports h))

end Files

end ArchivalBag

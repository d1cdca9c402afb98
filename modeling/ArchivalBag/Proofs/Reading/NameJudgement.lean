import ArchivalBag.Proofs.FileTree.Finding
import ArchivalBag.Proofs.Reading.TagFiles

/-!
# The judgement of names

The name of a manifest is judged twice, before its file is looked at and again before its lines are. A
name that is judged wanting is reported alike both times, so that nothing depends on the file. A path
without a name is judged the second time only: since no file is at such a path, reading it fails before
that, for the reason that the file system gives.

* `parseManifest_eq_unrecognized_iff`: when the reader of lines reports a name.
* `readManifest_of_unrecognized`, `readManifest_of_nameless`, `readManifest_of_namesManifest`: the three
  judgements of a path.
* `readManifest_judgesName`: the two judgements compared.
* `exists_path_judged_late`: a path without a name is not reported by it.
-/

namespace ArchivalBag

open Text

variable {t : FileTree} {e : TextEncoding} {p root : Path}

/-! ### The reader of lines -/

/-- The lines of a file with the name of a manifest are not reported for the name. -/
theorem parseManifest_ne_unrecognized {a : String} (h : p.NamesManifest a) (lines : List String)
    (n : String) : (parseManifest p lines root).outcome ≠ .error (.unrecognizedManifestName n) := by
  intro herr
  cases hr : root.absolute? with
  | none =>
    obtain ⟨name, hn, ha⟩ := h
    simp only [parseManifest, hn, manifestAlgorithm, ha, hr] at herr
    cases herr
  | some r =>
    rw [parseManifest_eq_run h hr] at herr
    obtain ⟨-, l, -, -, -, -, -, hline⟩ := (manifestReader_reports p r).exists_of_run_eq_error herr
    cases hline

/-- **A name is reported by the reader of lines** if there is none, or if it tells no algorithm. -/
theorem parseManifest_eq_unrecognized_iff {lines : List String} {n : String} :
    (parseManifest p lines root).outcome = .error (.unrecognizedManifestName n) ↔
      (p.fileName? = none ∧ n = p.text) ∨
        (p.fileName? = some n ∧ Manifest.algorithm? n = none) := by
  cases hn : p.fileName? with
  | none => simp [parseManifest, hn, eq_comm]
  | some name =>
    cases ha : Manifest.algorithm? name with
    | none =>
      simp only [parseManifest, hn, manifestAlgorithm, ha, Reading.outcome_fail, Except.error.injEq,
        BagError.unrecognizedManifestName.injEq, reduceCtorEq, false_and, false_or, Option.some.injEq]
      constructor
      · rintro rfl
        exact ⟨rfl, ha⟩
      · exact And.left
    | some a =>
      refine iff_of_false (parseManifest_ne_unrecognized ⟨name, hn, ha⟩ lines n) ?_
      rintro (⟨h, -⟩ | ⟨h, hnone⟩)
      · cases h
      · obtain rfl := Option.some.inj h
        rw [ha] at hnone
        cases hnone

/-! ### The reader of files -/

/-- **A name that tells no algorithm** is reported before the file is looked at. -/
theorem readManifest_of_unrecognized {n : String} (hn : p.fileName? = some n)
    (ha : Manifest.algorithm? n = none) :
    readManifest t e p root = ⟨.error (.unrecognizedManifestName n), [.readingManifest p]⟩ := by
  simp only [readManifest, judgeName, hn, manifestAlgorithm, ha]
  rfl

/-- **A path without a name** leads to no file, which is reported. -/
theorem readManifest_of_nameless (h : p.fileName? = none) :
    ∃ f, t.read p = .error f ∧
      readManifest t e p root = ⟨.error (.fileUnreadable p f), [.readingManifest p]⟩ := by
  cases hread : t.read p with
  | ok bytes =>
    obtain ⟨n, hn⟩ := FileTree.exists_fileName?_of_read hread
    rw [h] at hn
    cases hn
  | error f =>
    refine ⟨f, rfl, ?_⟩
    simp only [readManifest, judgeName, h, readText, hread]
    rfl

/-- **A name that tells an algorithm** leaves it to the text of the file and its lines. -/
theorem readManifest_of_namesManifest {a : String} (h : p.NamesManifest a) :
    readManifest t e p root = (do
      .note (.readingManifest p)
      let text ← readText t e p
      parseManifest p (Text.lines text) root) := by
  rw [readManifest, h.judgeName_eq]
  rfl

/-- **The two judgements of a path.** Whenever the reader of lines reports the name of a file, the reader
of files reports it as well, whatever is or is not at the path, provided that there is a name; if there
is none, it reports that there is no file. And where the name tells an algorithm, the reader of files
reports that there is no text at the path, or it gives what the reader of lines gives for this text. -/
theorem readManifest_judgesName (t : FileTree) (e : TextEncoding) (p root : Path) :
    (∀ lines n, (parseManifest p lines root).outcome = .error (.unrecognizedManifestName n) →
      (p.fileName? ≠ none →
        readManifest t e p root = ⟨.error (.unrecognizedManifestName n), [.readingManifest p]⟩) ∧
      (p.fileName? = none → ∃ f, t.read p = .error f ∧
        readManifest t e p root = ⟨.error (.fileUnreadable p f), [.readingManifest p]⟩)) ∧
    ∀ a, p.NamesManifest a →
      (∃ f, (readText t e p).outcome = .error (.fileUnreadable p f) ∧
        (readManifest t e p root).outcome = .error (.fileUnreadable p f)) ∨
      ∃ text, (readText t e p).outcome = .ok text ∧
        (readManifest t e p root).outcome = (parseManifest p (Text.lines text) root).outcome := by
  refine ⟨fun lines n h => ⟨fun hname => ?_, readManifest_of_nameless⟩, fun a ha => ?_⟩
  · rcases parseManifest_eq_unrecognized_iff.1 h with ⟨hnone, -⟩ | ⟨hn, ha⟩
    · exact absurd hnone hname
    · exact readManifest_of_unrecognized hn ha
  · rw [readManifest_of_namesManifest ha, Reading.outcome_note_bind]
    cases htext : (readText t e p).outcome with
    | error x =>
      obtain ⟨f, rfl⟩ := exists_fault_of_readText htext
      exact .inl ⟨f, rfl, by rw [Reading.bind_of_error htext]⟩
    | ok text => exact .inr ⟨text, rfl, Reading.outcome_bind_of_ok htext _⟩

/-- A tree that holds no files. -/
def filelessTree : FileTree :=
  .directory [("bag", .directory [("data", .directory [])])]

/-- A name that tells no algorithm, a path without a name, and a name that tells an algorithm. -/
theorem readManifest_judgesName_fileless :
    (parseManifest ⟨"/bag/sums.txt"⟩ ["abc x"] ⟨"/bag"⟩).outcome =
        .error (.unrecognizedManifestName "sums.txt") ∧
      readManifest filelessTree .utf8 ⟨"/bag/sums.txt"⟩ ⟨"/bag"⟩ =
        ⟨.error (.unrecognizedManifestName "sums.txt"), [.readingManifest ⟨"/bag/sums.txt"⟩]⟩ ∧
      (parseManifest ⟨"/bag/data/.."⟩ ["abc x"] ⟨"/bag"⟩).outcome =
        .error (.unrecognizedManifestName "/bag/data/..") ∧
      (∃ f, filelessTree.read ⟨"/bag/data/.."⟩ = .error f ∧
        readManifest filelessTree .utf8 ⟨"/bag/data/.."⟩ ⟨"/bag"⟩ =
          ⟨.error (.fileUnreadable ⟨"/bag/data/.."⟩ f), [.readingManifest ⟨"/bag/data/.."⟩]⟩) ∧
      Path.NamesManifest ⟨"/bag/manifest-md5.txt"⟩ "md5" ∧
      ∃ f, (readManifest filelessTree .utf8 ⟨"/bag/manifest-md5.txt"⟩ ⟨"/bag"⟩).outcome =
        .error (.fileUnreadable ⟨"/bag/manifest-md5.txt"⟩ f) := by
  have hunrecognized : (parseManifest ⟨"/bag/sums.txt"⟩ ["abc x"] ⟨"/bag"⟩).outcome =
      .error (.unrecognizedManifestName "sums.txt") := rfl
  have hnameless : (parseManifest ⟨"/bag/data/.."⟩ ["abc x"] ⟨"/bag"⟩).outcome =
      .error (.unrecognizedManifestName "/bag/data/..") := rfl
  have hmd5 : Path.NamesManifest ⟨"/bag/manifest-md5.txt"⟩ "md5" := ⟨"manifest-md5.txt", rfl, rfl⟩
  have h₁ := (readManifest_judgesName filelessTree .utf8 ⟨"/bag/sums.txt"⟩ ⟨"/bag"⟩).1 _ _ hunrecognized
  have h₂ := (readManifest_judgesName filelessTree .utf8 ⟨"/bag/data/.."⟩ ⟨"/bag"⟩).1 _ _ hnameless
  have h₃ := (readManifest_judgesName filelessTree .utf8 ⟨"/bag/manifest-md5.txt"⟩ ⟨"/bag"⟩).2 _ hmd5
  refine ⟨hunrecognized, h₁.1 (by decide), hnameless, h₂.2 rfl, hmd5, ?_⟩
  rcases h₃ with ⟨f, -, hf⟩ | ⟨text, htext, -⟩
  · exact ⟨f, hf⟩
  · cases htext

/-- **A path without a name is not reported by it**: a directory is at the path, and this is reported
before the lines are asked for. -/
theorem exists_path_judged_late :
    ∃ t e p root lines n,
      (parseManifest p lines root).outcome = .error (.unrecognizedManifestName n) ∧
      (readManifest t e p root).outcome = .error (.fileUnreadable p .isADirectory) :=
  ⟨filelessTree, .utf8, ⟨"/bag/data/.."⟩, ⟨"/bag"⟩, ["abc x"], "/bag/data/..", rfl, rfl⟩

end ArchivalBag

import ArchivalBag.Proofs.Reading.TagFiles
import ArchivalBag.Reading.BagFiles

/-!
# The steps of reading a bag

A bag is read in steps, each of which reads some files and adds what they say. Once the declaration has
been read the encoding of all further files is known, so a step has a value or an error exactly as its
files do.

* `addDeclaration_eq_ok_iff`, `addManifests_eq_ok_iff`, `addMetadata_eq_ok_iff`,
  `addFetchListIn_eq_ok_iff`: what a step adds; the lemmas on errors stand next to them.
* `assemble_eq_ok_iff`, `assemble_eq_error_iff`: the steps in a row.
* `outcome_readBag_of_absolute?`: a bag is read at the absolute form of its path.
-/

namespace ArchivalBag

variable {t : FileTree} {dir root : Path}

/-! ### The declaration -/

theorem addDeclaration_eq_ok_iff {file : Path} {b b' : Bag} :
    (addDeclaration t file b).outcome = .ok b' ↔
      ∃ d e, (readDeclaration t file).outcome = .ok d ∧ TextEncoding.ofLabel? d.encoding = some e ∧
        b' = b.withDeclaration d.version d.encoding := by
  unfold addDeclaration
  rw [Reading.outcome_bind_eq_ok_iff]
  refine exists_congr fun d => ?_
  cases TextEncoding.ofLabel? d.encoding with
  | none => simp
  | some e => simp [eq_comm]

theorem addDeclaration_eq_error_iff {file : Path} {b : Bag} {x : BagError} :
    (addDeclaration t file b).outcome = .error x ↔
      (readDeclaration t file).outcome = .error x ∨
        ∃ d, (readDeclaration t file).outcome = .ok d ∧ TextEncoding.ofLabel? d.encoding = none ∧
          x = .unsupportedEncoding file d.encoding := by
  unfold addDeclaration
  rw [Reading.outcome_bind_eq_error_iff]
  refine or_congr_right (exists_congr fun d => ?_)
  cases TextEncoding.ofLabel? d.encoding with
  | none => simp [eq_comm]
  | some e => simp

/-! ### Manifests, one after the other -/

/-- **All manifests are read**, each as it is alone. -/
theorem readManifests_eq_ok_iff {e : TextEncoding} {files : List Path}
    {ms : List (Manifest.Kind × Manifest)} :
    (readManifests t e root files).outcome = .ok ms ↔
      List.Forall₂ (fun p x => (readManifest t e p root).outcome = .ok x.2 ∧
        x.1 = Manifest.Kind.ofName (p.fileName?.getD "")) files ms := by
  induction files generalizing ms with
  | nil =>
    rw [List.forall₂_nil_left_iff, readManifests, Reading.outcome_pure, Except.ok.injEq]
    exact eq_comm
  | cons p files ih =>
    rw [readManifests, Reading.outcome_bind_eq_ok_iff]
    simp only [Reading.outcome_bind_eq_ok_iff, Reading.outcome_pure, Except.ok.injEq, ih]
    constructor
    · rintro ⟨m, hm, rest, hrest, rfl⟩
      exact .cons ⟨hm, rfl⟩ hrest
    · rintro (_ | ⟨⟨hm, hk⟩, hrest⟩)
      exact ⟨_, hm, _, hrest, by rw [← hk]⟩

/-- **One of them is not read**, and all before it are. -/
theorem exists_of_readManifests_eq_error {e : TextEncoding} {files : List Path} {x : BagError}
    (h : (readManifests t e root files).outcome = .error x) :
    ∃ before p after, files = before ++ p :: after ∧
      (∀ q ∈ before, ∃ m, (readManifest t e q root).outcome = .ok m) ∧
      (readManifest t e p root).outcome = .error x := by
  induction files with
  | nil => cases h
  | cons p files ih =>
    rw [readManifests] at h
    rcases Reading.outcome_bind_eq_error_iff.1 h with hp | ⟨m, hm, h⟩
    · exact ⟨[], p, files, rfl, fun q hq => absurd hq List.not_mem_nil, hp⟩
    · rcases Reading.outcome_bind_eq_error_iff.1 h with h | ⟨ms, -, h⟩
      · obtain ⟨before, q, after, rfl, hbefore, hq⟩ := ih h
        refine ⟨p :: before, q, after, rfl, fun q' hq' => ?_, hq⟩
        rcases List.mem_cons.1 hq' with rfl | hq'
        · exact ⟨m, hm⟩
        · exact hbefore q' hq'
      · cases h

theorem readManifests_congr {t' : FileTree} {e : TextEncoding} {files : List Path}
    (h : ∀ p ∈ files, readText t e p = readText t' e p) :
    readManifests t e root files = readManifests t' e root files := by
  induction files with
  | nil => rfl
  | cons p files ih =>
    rw [readManifests, readManifests, readManifest_congr (h p List.mem_cons_self),
      ih fun q hq => h q (List.mem_cons_of_mem p hq)]

/-! ### The steps behind the declaration -/

section Encoded
variable {b b' : Bag} {e : TextEncoding} {x : BagError}
  (he : TextEncoding.ofLabel? b.encoding = some e)

include he

theorem declaredEncoding_eq : declaredEncoding b = pure e := by
  rw [declaredEncoding, he]

theorem addManifests_eq_ok_iff :
    (addManifests t dir b).outcome = .ok b' ↔
      ∃ files, manifestFiles t dir = .ok files ∧
        ∃ ms, (readManifests t e b.root files).outcome = .ok ms ∧
          b.withManifests (ofKind .payload ms) (ofKind .tag ms) = b' := by
  rw [addManifests, declaredEncoding_eq he, Reading.pure_bind]
  simp only [Reading.outcome_bind_eq_ok_iff, Reading.outcome_ofExcept, Reading.outcome_pure,
    Except.ok.injEq]

theorem addManifests_eq_error_iff :
    (addManifests t dir b).outcome = .error x ↔
      manifestFiles t dir = .error x ∨
        ∃ files, manifestFiles t dir = .ok files ∧
          (readManifests t e b.root files).outcome = .error x := by
  rw [addManifests, declaredEncoding_eq he, Reading.pure_bind]
  simp only [Reading.outcome_bind_eq_error_iff, Reading.outcome_ofExcept, Reading.outcome_pure,
    reduceCtorEq, and_false, exists_false, or_false]

theorem addMetadata_eq_ok_iff :
    (addMetadata t dir b).outcome = .ok b' ↔
      ∃ m, (readMetadata t e dir).outcome = .ok m ∧ b.withMetadata m = b' := by
  rw [addMetadata, declaredEncoding_eq he, Reading.pure_bind]
  simp only [Reading.outcome_bind_eq_ok_iff, Reading.outcome_pure, Except.ok.injEq]

theorem addMetadata_eq_error_iff :
    (addMetadata t dir b).outcome = .error x ↔ (readMetadata t e dir).outcome = .error x := by
  rw [addMetadata, declaredEncoding_eq he, Reading.pure_bind]
  simp only [Reading.outcome_bind_eq_error_iff, Reading.outcome_pure, reduceCtorEq, and_false,
    exists_false, or_false]

theorem addFetchListIn_eq_ok_iff :
    (addFetchListIn t dir b).outcome = .ok b' ↔
      (t.contains (dir.join fetchFile) = false ∧ b = b') ∨
        t.contains (dir.join fetchFile) = true ∧
          ∃ items, (readFetchList t e (dir.join fetchFile)).outcome = .ok items ∧
            b.withFetchItems items = b' := by
  unfold addFetchListIn addFetchList
  dsimp only
  split
  · rename_i h
    rw [declaredEncoding_eq he, Reading.pure_bind]
    simp only [h, Reading.outcome_bind_eq_ok_iff, Reading.outcome_pure, Except.ok.injEq, reduceCtorEq,
      false_and, true_and, false_or]
  · rename_i h
    simp only [h, Reading.outcome_pure, Except.ok.injEq, true_and, Bool.false_eq_true, false_and,
      or_false]

theorem addFetchListIn_eq_error_iff :
    (addFetchListIn t dir b).outcome = .error x ↔
      t.contains (dir.join fetchFile) = true ∧
        (readFetchList t e (dir.join fetchFile)).outcome = .error x := by
  unfold addFetchListIn addFetchList
  dsimp only
  split
  · rename_i h
    rw [declaredEncoding_eq he, Reading.pure_bind]
    simp only [h, Reading.outcome_bind_eq_error_iff, Reading.outcome_pure, reduceCtorEq, and_false,
      exists_false, or_false, true_and]
  · rename_i h
    simp only [h, Reading.outcome_pure, reduceCtorEq, false_and]

end Encoded

/-! ### The steps in a row -/

theorem assemble_eq_ok_iff {b : Bag} :
    (assemble t root dir).outcome = .ok b ↔
      t.contains (dir.join declarationFile) = true ∧
        ∃ b₁, (addDeclaration t (dir.join declarationFile) (.new root)).outcome = .ok b₁ ∧
          ∃ b₂, (addManifests t dir b₁).outcome = .ok b₂ ∧
            ∃ b₃, (addMetadata t dir b₂).outcome = .ok b₃ ∧
              (addFetchListIn t dir b₃).outcome = .ok b := by
  unfold assemble
  dsimp only
  split
  · rename_i h
    simp only [h, Reading.outcome_bind_eq_ok_iff, Reading.outcome_note_bind, Reading.outcome_pure,
      Except.ok.injEq, exists_eq_right, true_and]
  · rename_i h
    simp only [h, Reading.outcome_fail, reduceCtorEq, false_and]

/-- **The first step that fails** tells the error. -/
theorem assemble_eq_error_iff {x : BagError} :
    (assemble t root dir).outcome = .error x ↔
      (t.contains (dir.join declarationFile) = false ∧
        .missingFile (dir.join declarationFile) = x) ∨
      t.contains (dir.join declarationFile) = true ∧
        ((addDeclaration t (dir.join declarationFile) (.new root)).outcome = .error x ∨
        ∃ b₁, (addDeclaration t (dir.join declarationFile) (.new root)).outcome = .ok b₁ ∧
          ((addManifests t dir b₁).outcome = .error x ∨
          ∃ b₂, (addManifests t dir b₁).outcome = .ok b₂ ∧
            ((addMetadata t dir b₂).outcome = .error x ∨
            ∃ b₃, (addMetadata t dir b₂).outcome = .ok b₃ ∧
              (addFetchListIn t dir b₃).outcome = .error x))) := by
  unfold assemble
  dsimp only
  split
  · rename_i h
    simp only [h, Reading.outcome_bind_eq_error_iff, Reading.outcome_note_bind, Reading.outcome_pure,
      reduceCtorEq, and_false, exists_false, or_false, false_and, true_and, false_or]
  · rename_i h
    simp only [h, Reading.outcome_fail, Except.error.injEq, true_and, Bool.false_eq_true, false_and,
      or_false]

/-! ### Whole bags -/

theorem outcome_reportFailure {α : Type} (p : Path) (x : Reading α) :
    (Reading.reportFailure p x).outcome = x.outcome := by
  unfold Reading.reportFailure
  cases h : x.outcome with
  | ok a => exact h
  | error e => rfl

/-- **A bag is read at the absolute form of its path.** -/
theorem outcome_readBag_of_absolute? {r : Path} (hr : root.absolute? = some r) :
    (readBag t root).outcome = (assemble t r (controlDirectory t r)).outcome := by
  rw [readBag, outcome_reportFailure, hr]
  dsimp only
  rw [readBagAt]
  exact Reading.outcome_note_bind _ _

/-- **The manifests of a bag** are those that were read from the files of its control directory. -/
theorem exists_manifests_of_assemble {b : Bag} (h : (assemble t root dir).outcome = .ok b) :
    ∃ e files ms, b.root = root ∧ manifestFiles t dir = .ok files ∧
      (readManifests t e root files).outcome = .ok ms ∧
      b.payloadManifests = sortManifests (ofKind .payload ms) ∧
      b.tagManifests = sortManifests (ofKind .tag ms) := by
  obtain ⟨-, b₁, h₁, b₂, h₂, b₃, h₃, h₄⟩ := assemble_eq_ok_iff.1 h
  obtain ⟨d, e, -, he, rfl⟩ := addDeclaration_eq_ok_iff.1 h₁
  have he₁ : TextEncoding.ofLabel? ((Bag.new root).withDeclaration d.version d.encoding).encoding =
    some e := he
  obtain ⟨files, hfiles, ms, hms, hb₂⟩ := (addManifests_eq_ok_iff he₁).1 h₂
  have he₂ : TextEncoding.ofLabel? b₂.encoding = some e := by rw [← hb₂]; exact he
  obtain ⟨m, -, hb₃⟩ := (addMetadata_eq_ok_iff he₂).1 h₃
  have he₃ : TextEncoding.ofLabel? b₃.encoding = some e := by rw [← hb₃]; exact he₂
  refine ⟨e, files, ms, ?_⟩
  rcases (addFetchListIn_eq_ok_iff he₃).1 h₄ with ⟨-, hb⟩ | ⟨-, items, -, hb⟩
  · rw [← hb, ← hb₃, ← hb₂]
    exact ⟨rfl, hfiles, hms, rfl, rfl⟩
  · rw [← hb, ← hb₃, ← hb₂]
    exact ⟨rfl, hfiles, hms, rfl, rfl⟩

end ArchivalBag

import ArchivalBag.Proofs.Reading.Outcome
import ArchivalBag.Reading.FetchLines
import ArchivalBag.Reading.Fields
import ArchivalBag.Reading.ManifestLines

/-!
# Reading line by line

The three kinds of tag files are read alike: a state is kept, each content line leads to the next
state and an event or is rejected, and the first rejected line ends the reading. A `LineReader` is one
such step, and `run` takes it along some lines.

* `run_append`: the lines of one part after those of another.
* `parseFieldLines_eq_run`, `parseManifestLines_eq_run`, `parseFetchLines_eq_run`: fields, manifests and
  fetch lists are read this way.
* `Reports`: a step reports the line it rejects; `Reports.exists_of_run_eq_error`: then a run reports the
  first line that it does not read.
-/

namespace ArchivalBag

open Text

/-- What one content line does to the state of a reader. -/
structure LineReader (σ : Type) where
  step : σ → Line → Except BagError (σ × Log.Event)

namespace LineReader

variable {σ : Type} (R : LineReader σ)

/-- The state after some lines. -/
def run : σ → List Line → Reading σ
  | s, [] => pure s
  | s, l :: ls =>
    match R.step s l with
    | .error e => .fail e
    | .ok (s', v) => do
      .note v
      run s' ls

variable {R}

theorem run_cons_of_error {s : σ} {l : Line} {e : BagError} (h : R.step s l = .error e)
    (ls : List Line) : R.run s (l :: ls) = .fail e := by
  rw [run, h]

theorem run_cons_of_ok {s s' : σ} {l : Line} {v : Log.Event} (h : R.step s l = .ok (s', v))
    (ls : List Line) : R.run s (l :: ls) = .note v >>= fun _ => R.run s' ls := by
  rw [run, h]

theorem outcome_run_cons_of_ok {s s' : σ} {l : Line} {v : Log.Event}
    (h : R.step s l = .ok (s', v)) (ls : List Line) :
    (R.run s (l :: ls)).outcome = (R.run s' ls).outcome := by
  rw [run_cons_of_ok h]; rfl

/-- **The lines of two parts** are read one part after the other. -/
theorem run_append (s : σ) (a b : List Line) :
    R.run s (a ++ b) = R.run s a >>= fun s' => R.run s' b := by
  induction a generalizing s with
  | nil =>
    rw [List.nil_append, run]
    exact (Reading.pure_bind s fun s' => R.run s' b).symm
  | cons l a ih =>
    cases h : R.step s l with
    | error e =>
      rw [List.cons_append, run_cons_of_error h, run_cons_of_error h, Reading.fail_bind]
    | ok x =>
      obtain ⟨s', v⟩ := x
      rw [List.cons_append, run_cons_of_ok h, run_cons_of_ok h, Reading.bind_assoc]
      simp only [ih]

end LineReader

/-! ### The readers of the three kinds of files -/

/-- The reader of fields; the state is the fields so far and the last key. -/
def fieldReader (source : Path) (delimiter : List Char) :
    LineReader (Metadata × Option String) where
  step s l :=
    if isFold l.text then
      match s.2 with
      | none => .error (.malformedKeyValueLine (l.context source))
      | some k => .ok ((s.1.appendLine k (String.ofList l.text), some k), .foldFound k)
    else
      match keyLine? delimiter l.text with
      | none => .error (.malformedKeyValueLine (l.context source))
      | some (k, v) => .ok ((s.1.insert k v, some k), .keyFound k v source)

/-- The reader of manifests; the state is the manifest so far. -/
def manifestReader (file root : Path) : LineReader Manifest where
  step m l :=
    match manifestLine? l.text with
    | none => .error (.malformedManifestLine (l.context file))
    | some (checksum, relative) =>
      let path := resolveEntry root (String.ofList relative)
      .ok (m.insert path (String.ofList checksum), .checksumRead (String.ofList checksum) path file)

/-- The reader of fetch lists; the state is the items so far. -/
def fetchReader (source : Path) : LineReader (List FetchItem) where
  step items l :=
    match FetchItem.parse l.text with
    | .error f => .error (.malformedFetchLine (l.context source) f)
    | .ok item => .ok (items ++ [item], .urlRead item source)

section Steps
variable {source : Path} {delimiter : List Char} {l : Line}

theorem fieldReader_step_fold_none (hf : isFold l.text = true) (m : Metadata) :
    (fieldReader source delimiter).step (m, none) l =
      .error (.malformedKeyValueLine (l.context source)) := by
  simp only [fieldReader, hf, if_true]

theorem fieldReader_step_fold_some (hf : isFold l.text = true) (m : Metadata) (k : String) :
    (fieldReader source delimiter).step (m, some k) l =
      .ok ((m.appendLine k (String.ofList l.text), some k), .foldFound k) := by
  simp only [fieldReader, hf, if_true]

theorem fieldReader_step_key_none (hf : isFold l.text = false)
    (hk : keyLine? delimiter l.text = none) (s : Metadata × Option String) :
    (fieldReader source delimiter).step s l =
      .error (.malformedKeyValueLine (l.context source)) := by
  simp only [fieldReader, hf, hk, Bool.false_eq_true, if_false]

theorem fieldReader_step_key_some (hf : isFold l.text = false) {k v : String}
    (hk : keyLine? delimiter l.text = some (k, v)) (s : Metadata × Option String) :
    (fieldReader source delimiter).step s l = .ok ((s.1.insert k v, some k), .keyFound k v source) := by
  simp only [fieldReader, hf, hk, Bool.false_eq_true, if_false]

/-- All that a step of the reader of fields can do. -/
theorem fieldReader_step_cases (source : Path) (delimiter : List Char)
    (s : Metadata × Option String) (l : Line) :
    (isFold l.text = true ∧ s.2 = none ∧ (fieldReader source delimiter).step s l =
      .error (.malformedKeyValueLine (l.context source))) ∨
    (∃ k, isFold l.text = true ∧ s.2 = some k ∧ (fieldReader source delimiter).step s l =
      .ok ((s.1.appendLine k (String.ofList l.text), some k), .foldFound k)) ∨
    (isFold l.text = false ∧ keyLine? delimiter l.text = none ∧
      (fieldReader source delimiter).step s l =
        .error (.malformedKeyValueLine (l.context source))) ∨
    ∃ k v, isFold l.text = false ∧ keyLine? delimiter l.text = some (k, v) ∧
      (fieldReader source delimiter).step s l =
        .ok ((s.1.insert k v, some k), .keyFound k v source) := by
  obtain ⟨m, last⟩ := s
  cases hf : isFold l.text with
  | true =>
    cases last with
    | none => exact .inl ⟨rfl, rfl, fieldReader_step_fold_none hf m⟩
    | some k => exact .inr (.inl ⟨k, rfl, rfl, fieldReader_step_fold_some hf m k⟩)
  | false =>
    cases hk : keyLine? delimiter l.text with
    | none => exact .inr (.inr (.inl ⟨rfl, rfl, fieldReader_step_key_none hf hk _⟩))
    | some kv => exact .inr (.inr (.inr ⟨_, _, rfl, rfl, fieldReader_step_key_some hf hk _⟩))

theorem manifestReader_step_none {file root : Path} (hl : manifestLine? l.text = none)
    (m : Manifest) :
    (manifestReader file root).step m l = .error (.malformedManifestLine (l.context file)) := by
  simp only [manifestReader, hl]

theorem manifestReader_step_some {file root : Path} {c p : List Char}
    (hl : manifestLine? l.text = some (c, p)) (m : Manifest) :
    (manifestReader file root).step m l =
      .ok (m.insert (resolveEntry root (String.ofList p)) (String.ofList c),
        .checksumRead (String.ofList c) (resolveEntry root (String.ofList p)) file) := by
  simp only [manifestReader, hl]

theorem fetchReader_step_error {f : FetchFault} (hl : FetchItem.parse l.text = .error f)
    (items : List FetchItem) :
    (fetchReader source).step items l = .error (.malformedFetchLine (l.context source) f) := by
  simp only [fetchReader, hl]

theorem fetchReader_step_ok {item : FetchItem} (hl : FetchItem.parse l.text = .ok item)
    (items : List FetchItem) :
    (fetchReader source).step items l = .ok (items ++ [item], .urlRead item source) := by
  simp only [fetchReader, hl]

end Steps

theorem parseFieldLines_eq_run (source : Path) (delimiter : List Char) (m : Metadata)
    (last : Option String) (ls : List Line) :
    parseFieldLines source delimiter m last ls =
      Prod.fst <$> (fieldReader source delimiter).run (m, last) ls := by
  induction ls generalizing m last with
  | nil => rfl
  | cons l ls ih =>
    simp only [parseFieldLines, LineReader.run, fieldReader]
    cases isFold l.text with
    | true =>
      cases last with
      | none => rfl
      | some k => simp only [if_true, ih, map_bind]; rfl
    | false =>
      simp only [Bool.false_eq_true, if_false]
      cases keyLine? delimiter l.text with
      | none => rfl
      | some kv => simp only [ih, map_bind]; rfl

theorem parseManifestLines_eq_run (file root : Path) (m : Manifest) (ls : List Line) :
    parseManifestLines file root m ls = (manifestReader file root).run m ls := by
  induction ls generalizing m with
  | nil => rfl
  | cons l ls ih =>
    simp only [parseManifestLines, LineReader.run, manifestReader]
    cases manifestLine? l.text with
    | none => rfl
    | some cp => simp only [ih]; rfl

theorem run_fetchReader (source : Path) (items : List FetchItem) (ls : List Line) :
    (fetchReader source).run items ls = (items ++ ·) <$> parseFetchLines source ls := by
  induction ls generalizing items with
  | nil => simp [LineReader.run, parseFetchLines]
  | cons l ls ih =>
    rw [parseFetchLines]
    cases h : FetchItem.parse l.text with
    | error f =>
      rw [LineReader.run_cons_of_error (fetchReader_step_error h items)]
      rfl
    | ok item =>
      rw [LineReader.run_cons_of_ok (fetchReader_step_ok h items)]
      simp only [ih, map_eq_pure_bind, bind_assoc, pure_bind, List.append_assoc,
        List.singleton_append]

theorem parseFetchLines_eq_run (source : Path) (ls : List Line) :
    parseFetchLines source ls = (fetchReader source).run [] ls := by
  rw [run_fetchReader]; simp

/-! ### Rejected lines -/

/-- The rejected line that an error reports, if it reports one. -/
def BagError.line? : BagError → Option LineContext
  | malformedKeyValueLine c => some c
  | malformedManifestLine c => some c
  | malformedFetchLine c _ => some c
  | _ => none

/-- A step that reports the line it rejects. -/
def LineReader.Reports (R : LineReader σ) (source : Path) : Prop :=
  ∀ s l e, R.step s l = .error e → e.line? = some (l.context source)

/-- **An error of a run reports one of its lines**, and the lines in front of it are read. -/
theorem LineReader.Reports.exists_of_run_eq_error {R : LineReader σ} {source : Path}
    (h : R.Reports source) {s : σ} {ls : List Line} {e : BagError}
    (he : (R.run s ls).outcome = .error e) :
    ∃ before l after s', ls = before ++ l :: after ∧ (R.run s before).outcome = .ok s' ∧
      R.step s' l = .error e ∧ e.line? = some (l.context source) := by
  induction ls generalizing s with
  | nil => cases he
  | cons l ls ih =>
    cases hstep : R.step s l with
    | error e' =>
      rw [run_cons_of_error hstep] at he
      obtain rfl := Except.error.inj he
      exact ⟨[], l, ls, s, rfl, rfl, hstep, h s l e' hstep⟩
    | ok x =>
      obtain ⟨s', v⟩ := x
      rw [outcome_run_cons_of_ok hstep] at he
      obtain ⟨before, l', after, s'', rfl, hrun, hstep', hline⟩ := ih he
      refine ⟨l :: before, l', after, s'', rfl, ?_, hstep', hline⟩
      rw [outcome_run_cons_of_ok hstep, hrun]

theorem fieldReader_reports (source : Path) (delimiter : List Char) :
    (fieldReader source delimiter).Reports source := by
  intro s l e he
  obtain ⟨-, -, hstep⟩ | ⟨k, -, -, hstep⟩ | ⟨-, -, hstep⟩ | ⟨k, v, -, -, hstep⟩ :=
    fieldReader_step_cases source delimiter s l
  · rw [hstep] at he
    rw [← Except.error.inj he]
    rfl
  · rw [hstep] at he
    cases he
  · rw [hstep] at he
    rw [← Except.error.inj he]
    rfl
  · rw [hstep] at he
    cases he

theorem manifestReader_reports (file root : Path) : (manifestReader file root).Reports file := by
  intro m l e he
  cases hl : manifestLine? l.text with
  | none =>
    rw [manifestReader_step_none hl] at he
    rw [← Except.error.inj he]
    rfl
  | some x =>
    rw [manifestReader_step_some hl] at he
    cases he

theorem fetchReader_reports (source : Path) : (fetchReader source).Reports source := by
  intro items l e he
  cases hl : FetchItem.parse l.text with
  | error f =>
    rw [fetchReader_step_error hl] at he
    rw [← Except.error.inj he]
    rfl
  | ok item =>
    rw [fetchReader_step_ok hl] at he
    cases he

/-! ### The three kinds of files -/

theorem parseFields_eq_run (source : Path) (delimiter : String) (lines : List String) :
    parseFields source delimiter lines =
      Prod.fst <$> (fieldReader source delimiter.toList).run (.empty, none) (contentLines lines) :=
  parseFieldLines_eq_run source delimiter.toList .empty none (contentLines lines)

theorem parseFetchList_eq_run (source : Path) (lines : List String) :
    parseFetchList source lines = (fetchReader source).run [] (contentLines lines) :=
  parseFetchLines_eq_run source (contentLines lines)

theorem parseFetchList_eq_map_run (source : Path) (lines : List String) :
    parseFetchList source lines = id <$> (fetchReader source).run [] (contentLines lines) := by
  rw [id_map, parseFetchList_eq_run]

theorem Path.exists_absolute? {p : Path} (h : p.isEmpty = false) : ∃ r, p.absolute? = some r := by
  rw [Path.absolute?, if_neg (by simp [h])]
  exact ⟨_, rfl⟩

/-- The name of the file says that it is a manifest by this algorithm. -/
def Path.NamesManifest (file : Path) (algorithm : String) : Prop :=
  ∃ name, file.fileName? = some name ∧ Manifest.algorithm? name = some algorithm

/-- The lines of a manifest are read once its name and its root have been judged. -/
theorem parseManifest_eq_run {file root r : Path} {algorithm : String}
    (hf : file.NamesManifest algorithm) (hr : root.absolute? = some r) (lines : List String) :
    parseManifest file lines root =
      (manifestReader file r).run (.empty algorithm) (contentLines lines) := by
  obtain ⟨name, hn, ha⟩ := hf
  simp only [parseManifest, hn, manifestAlgorithm, ha, hr]
  exact parseManifestLines_eq_run file r (.empty algorithm) (contentLines lines)

theorem parseManifest_eq_map_run {file root r : Path} {algorithm : String}
    (hf : file.NamesManifest algorithm) (hr : root.absolute? = some r) (lines : List String) :
    parseManifest file lines root =
      id <$> (manifestReader file r).run (.empty algorithm) (contentLines lines) := by
  rw [id_map, parseManifest_eq_run hf hr]

/-- The lines are not looked at if the name or the root is rejected. -/
theorem parseManifest_eq_fail_or (file root : Path) :
    (∃ e : BagError, e.line? = none ∧ ∀ lines, parseManifest file lines root = .fail e) ∨
      ∃ algorithm r, file.NamesManifest algorithm ∧ root.absolute? = some r := by
  cases hn : file.fileName? with
  | none =>
    refine .inl ⟨.unrecognizedManifestName file.text, rfl, fun lines => ?_⟩
    simp only [parseManifest, hn]
  | some name =>
    cases ha : Manifest.algorithm? name with
    | none =>
      refine .inl ⟨.unrecognizedManifestName name, rfl, fun lines => ?_⟩
      simp only [parseManifest, hn, manifestAlgorithm, ha]
    | some algorithm =>
      cases hr : root.absolute? with
      | none =>
        refine .inl ⟨.fileUnreadable root .emptyPath, rfl, fun lines => ?_⟩
        simp only [parseManifest, hn, manifestAlgorithm, ha, hr]
      | some r => exact .inr ⟨algorithm, r, ⟨name, hn, ha⟩, rfl⟩

end ArchivalBag

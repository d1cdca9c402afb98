import ArchivalBag.Proofs.Reading.LineGrammar
import ArchivalBag.Proofs.Reading.LineReader
import ArchivalBag.Proofs.Text.ContentLines

/-!
# The first malformed line

All three kinds of tag files are read up to the first malformed content line, and this line is
reported by its place in the file. Whether a content line is malformed depends on its text and on
whether another content line stands before it: only a fold asks for the latter.

* `StopsAtFirst`: the law, for a notion `bad` of malformed lines and the error that reports one.
* `FirstMalformed`: the first malformed line, as a line is put in front.
* `LineReader.Judges`: what one step has to do; `LineReader.Judges.stopsAtFirst`: then the law holds
  of the whole reading.
* `lineParsers_stopAtFirst`: it holds of fields, manifests and fetch lists.
-/

namespace ArchivalBag

open Text

/-! ### Places of malformed lines -/

/-- No content line stands before a place. -/
def OpensFile (lines : List String) (i : ℕ) : Prop :=
  ∀ j < i, contentAt? lines j = none

theorem opensFile_zero (ls : List String) : OpensFile ls 0 = True :=
  propext ⟨fun _ => trivial, fun _ j hj => absurd hj (Nat.not_lt_zero j)⟩

theorem opensFile_cons_none {l : String} (h : content? l = none) (ls : List String) (i : ℕ) :
    OpensFile (l :: ls) (i + 1) = OpensFile ls i := by
  refine propext ⟨fun ho j hj => ho (j + 1) (by omega), fun ho j hj => ?_⟩
  cases j with
  | zero => exact h
  | succ j => exact ho j (by omega)

theorem opensFile_cons_some {l : String} {t : List Char} (h : content? l = some t)
    (ls : List String) (i : ℕ) : OpensFile (l :: ls) (i + 1) = False := by
  refine propext ⟨fun ho => ?_, False.elim⟩
  have h₀ : content? l = none := ho 0 (Nat.succ_pos i)
  rw [h] at h₀
  cases h₀

theorem opensFile_take {ls : List String} {i n : ℕ} (h : i ≤ n) :
    OpensFile (ls.take n) i = OpensFile ls i := by
  refine propext ⟨fun ho j hj => ?_, fun ho j hj => ?_⟩
  · rw [← contentAt?_take (show j < n by omega)]; exact ho j hj
  · rw [contentAt?_take (show j < n by omega)]; exact ho j hj

/-- A malformed content line `t` at a place. -/
structure MalformedAt (bad : Prop → List Char → Prop) (lines : List String) (i : ℕ)
    (t : List Char) : Prop where
  content : contentAt? lines i = some t
  bad : bad (OpensFile lines i) t

/-- **The first malformed line decides.** -/
structure StopsAtFirst {α : Type} (bad : Prop → List Char → Prop) (report : Line → BagError → Prop)
    (parse : List String → Reading α) : Prop where
  /-- An error reports the first malformed line, with its place in the file counted from one. -/
  error_of : ∀ lines e, (parse lines).outcome = .error e →
    ∃ i t, MalformedAt bad lines i t ∧ (∀ j < i, ∀ u, ¬ MalformedAt bad lines j u) ∧
      report ⟨i + 1, t⟩ e
  /-- A file with a malformed line is not read. -/
  fails : ∀ lines i t, MalformedAt bad lines i t → ∃ e, (parse lines).outcome = .error e
  /-- The lines behind a malformed line are not looked at. -/
  stops : ∀ lines lines' i t, MalformedAt bad lines i t →
    lines'.take (i + 1) = lines.take (i + 1) → parse lines' = parse lines

theorem MalformedAt.take {bad : Prop → List Char → Prop} {lines : List String} {i : ℕ}
    {t : List Char} (h : MalformedAt bad lines i t) : MalformedAt bad (lines.take (i + 1)) i t where
  content := by rw [contentAt?_take (Nat.lt_succ_self i)]; exact h.content
  bad := by rw [opensFile_take (Nat.le_succ i)]; exact h.bad

/-! ### The first malformed line -/

/-- The first malformed content line of some lines; `first` tells whether no content line stands in
front of all of them. -/
structure FirstMalformed (bad : Prop → List Char → Prop) (first : Prop) (lines : List String) (i : ℕ)
    (t : List Char) : Prop where
  content : contentAt? lines i = some t
  isBad : bad (first ∧ OpensFile lines i) t
  before : ∀ j < i, ∀ u, contentAt? lines j = some u → ¬ bad (first ∧ OpensFile lines j) u

namespace FirstMalformed

variable {bad : Prop → List Char → Prop} {first : Prop} {l : String} {ls : List String} {u : List Char}

theorem zero (hl : content? l = some u) (hb : bad first u) :
    FirstMalformed bad first (l :: ls) 0 u where
  content := hl
  isBad := by rw [opensFile_zero, and_true]; exact hb
  before j hj := absurd hj (Nat.not_lt_zero j)

/-- A line without content in front. -/
theorem cons_none {i : ℕ} {t : List Char} (hl : content? l = none)
    (h : FirstMalformed bad first ls i t) : FirstMalformed bad first (l :: ls) (i + 1) t where
  content := h.content
  isBad := by rw [opensFile_cons_none hl]; exact h.isBad
  before j hj w hw := by
    cases j with
    | zero => rw [contentAt?_cons_zero, hl] at hw; cases hw
    | succ j =>
      rw [opensFile_cons_none hl]
      exact h.before j (by omega) w hw

/-- A content line in front that is not malformed. -/
theorem cons_some {i : ℕ} {t : List Char} (hl : content? l = some u) (hu : ¬ bad first u)
    (h : FirstMalformed bad False ls i t) : FirstMalformed bad first (l :: ls) (i + 1) t where
  content := h.content
  isBad := by
    rw [opensFile_cons_some hl, and_false]
    have hb := h.isBad
    rwa [false_and] at hb
  before j hj w hw := by
    cases j with
    | zero =>
      rw [contentAt?_cons_zero, hl] at hw
      obtain rfl := Option.some.inj hw
      rw [opensFile_zero, and_true]
      exact hu
    | succ j =>
      rw [opensFile_cons_some hl, and_false]
      have hb := h.before j (by omega) w hw
      rwa [false_and] at hb

end FirstMalformed

/-! ### From one step to a file -/

/-- A step that rejects exactly the malformed lines and reports them. `fresh first s` says that the
state `s` tells whether the next content line is the first one. -/
structure LineReader.Judges {σ : Type} (R : LineReader σ) (bad : Prop → List Char → Prop)
    (report : Line → BagError → Prop) (fresh : Prop → σ → Prop) : Prop where
  rejects : ∀ first s l, fresh first s → bad first l.text → ∃ e, R.step s l = .error e
  error_of : ∀ first s l e, fresh first s → R.step s l = .error e → bad first l.text ∧ report l e
  next : ∀ first s l s' v, fresh first s → R.step s l = .ok (s', v) → fresh False s'

namespace LineReader.Judges

variable {σ : Type} {R : LineReader σ} {bad : Prop → List Char → Prop}
  {report : Line → BagError → Prop} {fresh : Prop → σ → Prop} (h : R.Judges bad report fresh)
include h

theorem not_bad_of_step_eq_ok {first : Prop} {s : σ} (hs : fresh first s) {n : ℕ} {t : List Char}
    {x : σ × Log.Event} (hstep : R.step s ⟨n, t⟩ = .ok x) : ¬ bad first t := by
  intro hb
  obtain ⟨e, he⟩ := h.rejects first s ⟨n, t⟩ hs hb
  rw [hstep] at he
  cases he

theorem exists_run_eq_error {first : Prop} {s : σ} (hs : fresh first s) {lines : List String}
    {i : ℕ} {t : List Char} (hc : contentAt? lines i = some t)
    (hb : bad (first ∧ OpensFile lines i) t) (n : ℕ) :
    ∃ e, (R.run s (contentFrom n lines)).outcome = .error e := by
  induction lines generalizing first s i n with
  | nil => cases hc
  | cons l ls ih =>
    cases hl : content? l with
    | none =>
      rw [contentFrom_cons_none hl]
      cases i with
      | zero => rw [contentAt?_cons_zero, hl] at hc; cases hc
      | succ i =>
        rw [opensFile_cons_none hl] at hb
        exact ih hs hc hb (n + 1)
    | some u =>
      rw [contentFrom_cons_some hl]
      cases hstep : R.step s ⟨n, u⟩ with
      | error e => exact ⟨e, by rw [run_cons_of_error hstep]; rfl⟩
      | ok x =>
        obtain ⟨s', v⟩ := x
        rw [outcome_run_cons_of_ok hstep]
        cases i with
        | zero =>
          rw [contentAt?_cons_zero, hl] at hc
          obtain rfl := Option.some.inj hc
          rw [opensFile_zero, and_true] at hb
          exact absurd hb (h.not_bad_of_step_eq_ok hs hstep)
        | succ i =>
          rw [opensFile_cons_some hl, and_false] at hb
          exact ih (h.next _ _ _ _ _ hs hstep) hc (by rw [false_and]; exact hb) (n + 1)

/-- An error of the run reports the first malformed line. -/
theorem exists_of_run_eq_error {first : Prop} {s : σ} (hs : fresh first s) {lines : List String}
    {n : ℕ} {e : BagError} (he : (R.run s (contentFrom n lines)).outcome = .error e) :
    ∃ i t, FirstMalformed bad first lines i t ∧ report ⟨n + i, t⟩ e := by
  induction lines generalizing first s n with
  | nil => cases he
  | cons l ls ih =>
    have hn : ∀ i, n + (i + 1) = n + 1 + i := fun i => by omega
    cases hl : content? l with
    | none =>
      rw [contentFrom_cons_none hl] at he
      obtain ⟨i, t, hm, hr⟩ := ih hs he
      exact ⟨i + 1, t, hm.cons_none hl, by rw [hn]; exact hr⟩
    | some u =>
      rw [contentFrom_cons_some hl] at he
      cases hstep : R.step s ⟨n, u⟩ with
      | error e' =>
        rw [run_cons_of_error hstep] at he
        obtain rfl := Except.error.inj he
        obtain ⟨hb, hr⟩ := h.error_of first s ⟨n, u⟩ e' hs hstep
        exact ⟨0, u, .zero hl hb, hr⟩
      | ok x =>
        obtain ⟨s', v⟩ := x
        rw [outcome_run_cons_of_ok hstep] at he
        obtain ⟨i, t, hm, hr⟩ := ih (h.next _ _ _ _ _ hs hstep) he
        exact ⟨i + 1, t, hm.cons_some hl (h.not_bad_of_step_eq_ok hs hstep), by rw [hn]; exact hr⟩

theorem exists_run_eq_error_of_malformedAt {s : σ} (hs : fresh True s) {lines : List String} {i : ℕ}
    {t : List Char} (hm : MalformedAt bad lines i t) :
    ∃ e, (R.run s (contentLines lines)).outcome = .error e :=
  h.exists_run_eq_error hs hm.content (by rw [true_and]; exact hm.bad) 1

/-- A malformed line ends the reading, so the lines behind it do not count. -/
theorem run_eq_run_take {s : σ} (hs : fresh True s) {lines : List String} {i : ℕ} {t : List Char}
    (hm : MalformedAt bad lines i t) :
    R.run s (contentLines lines) = R.run s (contentLines (lines.take (i + 1))) := by
  obtain ⟨e, he⟩ := h.exists_run_eq_error_of_malformedAt hs hm.take
  have hsplit : contentLines lines = contentLines (lines.take (i + 1)) ++
      contentFrom (1 + (lines.take (i + 1)).length) (lines.drop (i + 1)) := by
    rw [contentLines, contentLines, ← contentFrom_append, List.take_append_drop]
  rw [hsplit, run_append, Reading.bind_of_error he]
  exact Reading.ext he.symm rfl

/-- **What one step does a whole file does.** -/
theorem stopsAtFirst {α : Type} {s : σ} (hs : fresh True s) (f : σ → α) :
    StopsAtFirst bad report fun lines => f <$> R.run s (contentLines lines) where
  error_of lines e he := by
    obtain ⟨i, t, hm, hr⟩ :=
      h.exists_of_run_eq_error hs (Reading.outcome_map_eq_error_iff.1 he)
    have hb := hm.isBad
    rw [true_and] at hb
    refine ⟨i, t, ⟨hm.content, hb⟩, fun j hj u hu => ?_, by rwa [Nat.add_comm] at hr⟩
    exact hm.before j hj u hu.content (by rw [true_and]; exact hu.bad)
  fails lines i t hm := by
    obtain ⟨e, he⟩ := h.exists_run_eq_error_of_malformedAt hs hm
    exact ⟨e, Reading.outcome_map_eq_error_iff.2 he⟩
  stops lines lines' i t hm ht := by
    have hm' : MalformedAt bad lines' i t := by
      have := hm.take
      rw [← ht] at this
      exact ⟨by rw [← contentAt?_take (Nat.lt_succ_self i)]; exact this.content,
        by rw [← opensFile_take (Nat.le_succ i)]; exact this.bad⟩
    simp only [h.run_eq_run_take hs hm, h.run_eq_run_take hs hm', ht]

end LineReader.Judges

/-! ### The three kinds of files -/

/-- A malformed line of a file of fields: a fold that no content line precedes, or another line that
is no key line. -/
def MalformedField (delimiter : List Char) (first : Prop) (t : List Char) : Prop :=
  (isFold t = true ∧ first) ∨ (isFold t = false ∧ LacksKey delimiter t)

theorem judges_fieldReader (source : Path) (delimiter : List Char) :
    (fieldReader source delimiter).Judges (MalformedField delimiter)
      (fun l e => e = .malformedKeyValueLine (l.context source))
      fun first s => first ↔ s.2 = none where
  rejects first s l hs hb := by
    obtain ⟨m, last⟩ := s
    rcases hb with ⟨hf, hfirst⟩ | ⟨hf, hk⟩
    · obtain rfl : last = none := hs.1 hfirst
      exact ⟨_, fieldReader_step_fold_none hf m⟩
    · exact ⟨_, fieldReader_step_key_none hf ((keyLine?_eq_none_iff hf).2 hk) _⟩
  error_of first s l e hs he := by
    rcases fieldReader_step_cases source delimiter s l with
      ⟨hf, hn, hstep⟩ | ⟨k, -, -, hstep⟩ | ⟨hf, hk, hstep⟩ | ⟨k, v, -, -, hstep⟩
    · rw [hstep] at he
      exact ⟨Or.inl ⟨hf, hs.2 hn⟩, (Except.error.inj he).symm⟩
    · rw [hstep] at he
      cases he
    · rw [hstep] at he
      exact ⟨Or.inr ⟨hf, (keyLine?_eq_none_iff hf).1 hk⟩, (Except.error.inj he).symm⟩
    · rw [hstep] at he
      cases he
  next first s l s' v hs he := by
    rcases fieldReader_step_cases source delimiter s l with
      ⟨-, -, hstep⟩ | ⟨k, -, -, hstep⟩ | ⟨-, -, hstep⟩ | ⟨k, v, -, -, hstep⟩
    · rw [hstep] at he
      cases he
    · rw [hstep] at he
      obtain ⟨rfl, -⟩ := Prod.mk.inj (Except.ok.inj he)
      simp
    · rw [hstep] at he
      cases he
    · rw [hstep] at he
      obtain ⟨rfl, -⟩ := Prod.mk.inj (Except.ok.inj he)
      simp

theorem judges_manifestReader (file root : Path) :
    (manifestReader file root).Judges (fun _ t => ¬ ∃ c p, IsManifestLine t c p)
      (fun l e => e = .malformedManifestLine (l.context file)) fun _ _ => True where
  rejects _ m l _ hb := ⟨_, manifestReader_step_none (manifestLine?_eq_none_iff.2 hb) m⟩
  error_of _ m l e _ he := by
    cases hl : manifestLine? l.text with
    | none =>
      rw [manifestReader_step_none hl] at he
      exact ⟨manifestLine?_eq_none_iff.1 hl, (Except.error.inj he).symm⟩
    | some cp => rw [manifestReader_step_some hl] at he; cases he
  next _ _ _ _ _ _ _ := trivial

theorem judges_fetchReader (source : Path) :
    (fetchReader source).Judges (fun _ t => ¬ ∃ item, IsFetchLine t item)
      (fun l e => ∃ f, FetchItem.parse l.text = .error f ∧
        e = .malformedFetchLine (l.context source) f) fun _ _ => True where
  rejects _ items l _ hb := by
    obtain ⟨f, hf⟩ := FetchItem.exists_parse_eq_error_iff.2 hb
    exact ⟨_, fetchReader_step_error hf items⟩
  error_of _ items l e _ he := by
    cases hl : FetchItem.parse l.text with
    | error f =>
      rw [fetchReader_step_error hl] at he
      exact ⟨FetchItem.exists_parse_eq_error_iff.1 ⟨f, hl⟩, f, rfl, (Except.error.inj he).symm⟩
    | ok item => rw [fetchReader_step_ok hl] at he; cases he
  next _ _ _ _ _ _ _ := trivial

/-- **Fields, manifests and fetch lists are read up to the first malformed line.** -/
theorem lineParsers_stopAtFirst (source : Path) :
    (∀ delimiter : String,
      StopsAtFirst (MalformedField delimiter.toList)
        (fun l e => e = .malformedKeyValueLine ⟨source, l.number, String.ofList l.text⟩)
        (parseFields source delimiter)) ∧
    (∀ (root : Path) (algorithm : String), source.NamesManifest algorithm → root.isEmpty = false →
      StopsAtFirst (fun _ t => ¬ ∃ c p, IsManifestLine t c p)
        (fun l e => e = .malformedManifestLine ⟨source, l.number, String.ofList l.text⟩)
        fun lines => parseManifest source lines root) ∧
    StopsAtFirst (fun _ t => ¬ ∃ item, IsFetchLine t item)
      (fun l e => ∃ f, FetchItem.parse l.text = .error f ∧
        e = .malformedFetchLine ⟨source, l.number, String.ofList l.text⟩ f)
      (parseFetchList source) := by
  refine ⟨fun delimiter => ?_, fun root algorithm hn hr => ?_, ?_⟩
  · rw [show parseFields source delimiter = fun lines => Prod.fst <$>
        (fieldReader source delimiter.toList).run (.empty, none) (contentLines lines) from
      funext (parseFields_eq_run source delimiter)]
    exact (judges_fieldReader source delimiter.toList).stopsAtFirst (by simp) Prod.fst
  · obtain ⟨r, hr⟩ := Path.exists_absolute? hr
    rw [show (fun lines => parseManifest source lines root) = fun lines => id <$>
        (manifestReader source r).run (.empty algorithm) (contentLines lines) from
      funext fun lines => by rw [id_map]; exact parseManifest_eq_run hn hr lines]
    exact (judges_manifestReader source r).stopsAtFirst trivial id
  · rw [show parseFetchList source = fun lines => id <$>
        (fetchReader source).run [] (contentLines lines) from
      funext fun lines => by rw [id_map]; exact parseFetchList_eq_run source lines]
    exact (judges_fetchReader source).stopsAtFirst trivial id

/-- A manifest whose second content line has no path, in the fourth place. -/
theorem lineParsers_stopAtFirst_pathless :
    Path.NamesManifest ⟨"/bag/manifest-md5.txt"⟩ "md5" ∧ Path.isEmpty ⟨"/bag"⟩ = false ∧
      StopsAtFirst (fun _ t => ¬ ∃ c p, IsManifestLine t c p)
        (fun l e => e = .malformedManifestLine
          ⟨⟨"/bag/manifest-md5.txt"⟩, l.number, String.ofList l.text⟩)
        (fun lines => parseManifest ⟨"/bag/manifest-md5.txt"⟩ lines ⟨"/bag"⟩) ∧
      (parseManifest ⟨"/bag/manifest-md5.txt"⟩ ["", "a data/x", "\r", "b \r", " c"] ⟨"/bag"⟩).outcome
        = .error (.malformedManifestLine ⟨⟨"/bag/manifest-md5.txt"⟩, 4, "b "⟩) :=
  ⟨⟨"manifest-md5.txt", rfl, rfl⟩, rfl,
    (lineParsers_stopAtFirst ⟨"/bag/manifest-md5.txt"⟩).2.1 ⟨"/bag"⟩ "md5"
      ⟨"manifest-md5.txt", rfl, rfl⟩ rfl, rfl⟩

end ArchivalBag

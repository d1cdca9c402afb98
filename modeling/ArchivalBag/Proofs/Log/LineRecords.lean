import ArchivalBag.Proofs.Reading.FetchEntries
import ArchivalBag.Proofs.Reading.ManifestEntries

/-!
# What is recorded of the lines of a file

While the lines of a tag file are read, each content line that is accepted leaves one event. Here the
events are described by what the lines say: a key line leaves its key and value, a fold the key it
belongs to, a line of a manifest its checksum and path, and a line of a fetch list its item.

* `Log.Event.lineKind?`: the events of lines, by the kinds of the lines.
* `RecordsFields`, `RecordsChecksum`, `RecordsUrl`: the events of lines of each kind.
* `LogsLines`: the law; `logsLines_of_run`: it holds of a reader if it does for accepted lines.
* `parseFields_logsLines`, `parseManifest_logsLines`, `parseFetchList_logsLines`: it holds of the three
  kinds of files.
-/

namespace ArchivalBag

open Text

variable {α σ : Type}

/-! ### Events of lines -/

/-- The kinds of content lines, and of the files that hold them. -/
inductive LineKind where
  | field
  | checksum
  | url
  deriving DecidableEq

/-- The kind of the line that an event is about, if it is about one. -/
def Log.Event.lineKind? : Log.Event → Option LineKind
  | keyFound .. => some .field
  | foldFound _ => some .field
  | checksumRead .. => some .checksum
  | urlRead .. => some .url
  | _ => none

theorem Log.Event.level_of_lineKind? {v : Log.Event} {k : LineKind} (h : v.lineKind? = some k) :
    v.level = .debug := by
  cases v <;> first | rfl | cases h

/-- The events of the lines of a file of fields, when `last` is the last key. -/
inductive RecordsFields (file : Path) : Option String → List (List Char) → List Log.Event → Prop where
  | nil (last : Option String) : RecordsFields file last [] []
  | key {last : Option String} {t : List Char} {k v : String} {ts : List (List Char)}
      {vs : List Log.Event} (hf : isFold t = false) (hk : IsKeyLine tagDelimiter.toList t k v)
      (h : RecordsFields file (some k) ts vs) :
      RecordsFields file last (t :: ts) (.keyFound k v file :: vs)
  | fold {k : String} {t : List Char} {ts : List (List Char)} {vs : List Log.Event}
      (hf : isFold t = true) (h : RecordsFields file (some k) ts vs) :
      RecordsFields file (some k) (t :: ts) (.foldFound k :: vs)

/-- The event of a line of a manifest. -/
def RecordsChecksum (file root : Path) (t : List Char) (v : Log.Event) : Prop :=
  ∃ x, GivesChecksum t x ∧ v = .checksumRead x.1 (resolveEntry root x.2) file

/-- The event of a line of a fetch list. -/
def RecordsUrl (file : Path) (t : List Char) (v : Log.Event) : Prop :=
  ∃ item, IsFetchLine t item ∧ v = .urlRead item file

/-! ### Events of a run -/

namespace LineReader

variable {R : LineReader σ}

theorem events_run_cons_of_ok {s s' : σ} {l : Line} {v : Log.Event} (h : R.step s l = .ok (s', v))
    (ls : List Line) : (R.run s (l :: ls)).events = v :: (R.run s' ls).events := by
  rw [run_cons_of_ok h]; rfl

/-- The events of a run are those of its steps. -/
theorem exists_step_of_mem_events {s : σ} {ls : List Line} {v : Log.Event}
    (h : v ∈ (R.run s ls).events) : ∃ s l s', R.step s l = .ok (s', v) := by
  induction ls generalizing s with
  | nil => cases h
  | cons l ls ih =>
    cases hstep : R.step s l with
    | error e =>
      rw [run_cons_of_error hstep] at h
      cases h
    | ok x =>
      obtain ⟨s', w⟩ := x
      rw [events_run_cons_of_ok hstep] at h
      rcases List.mem_cons.1 h with rfl | h
      · exact ⟨s, l, s', hstep⟩
      · exact ih h

/-- **Each accepted line leaves one event.** -/
theorem forall₂_events {P : List Char → Log.Event → Prop}
    (hstep : ∀ s l s' v, R.step s l = .ok (s', v) → P l.text v) {s s' : σ} {ls : List Line}
    (h : (R.run s ls).outcome = .ok s') :
    List.Forall₂ P (ls.map Line.text) (R.run s ls).events := by
  induction ls generalizing s with
  | nil => exact .nil
  | cons l ls ih =>
    cases hs : R.step s l with
    | error e =>
      rw [run_cons_of_error hs] at h
      cases h
    | ok x =>
      obtain ⟨s₁, v⟩ := x
      rw [outcome_run_cons_of_ok hs] at h
      rw [events_run_cons_of_ok hs]
      exact .cons (hstep s l s₁ v hs) (ih h)

/-- A run that stops at a line leaves the events of the lines in front of it. -/
theorem events_run_of_error {s s' : σ} {before after : List Line} {l : Line} {e : BagError}
    (hb : (R.run s before).outcome = .ok s') (hl : R.step s' l = .error e) :
    (R.run s (before ++ l :: after)).events = (R.run s before).events := by
  rw [run_append, Reading.bind_of_ok hb, run_cons_of_error hl]
  exact List.append_nil _

end LineReader

theorem recordsFields_of_run {file : Path} {ls : List Line} {s s' : Metadata × Option String}
    (h : ((fieldReader file tagDelimiter.toList).run s ls).outcome = .ok s') :
    RecordsFields file s.2 (ls.map Line.text)
      ((fieldReader file tagDelimiter.toList).run s ls).events := by
  induction ls generalizing s with
  | nil => exact .nil s.2
  | cons l ls ih =>
    obtain ⟨-, -, hstep⟩ | ⟨k, hf, hlast, hstep⟩ | ⟨-, -, hstep⟩ | ⟨k, v, hf, hk, hstep⟩ :=
      fieldReader_step_cases file tagDelimiter.toList s l
    · rw [LineReader.run_cons_of_error hstep] at h
      cases h
    · rw [LineReader.outcome_run_cons_of_ok hstep] at h
      rw [LineReader.events_run_cons_of_ok hstep, hlast]
      exact .fold hf (ih h)
    · rw [LineReader.run_cons_of_error hstep] at h
      cases h
    · rw [LineReader.outcome_run_cons_of_ok hstep] at h
      rw [LineReader.events_run_cons_of_ok hstep]
      exact .key hf ((keyLine?_eq_some_iff hf).1 hk) (ih h)

/-! ### The law -/

/-- **What is recorded of lines.** If all lines are read, then the events are those of all content lines.
If a line is rejected, then it stands in the file under the number that is reported, and the events are
those of the content lines in front of it. -/
structure LogsLines (kind : LineKind) (records : List (List Char) → List Log.Event → Prop)
    (source : Path) (parse : List String → Reading α) : Prop where
  lineKind? : ∀ lines, ∀ v ∈ (parse lines).events, v.lineKind? = some kind
  all : ∀ lines a, (parse lines).outcome = .ok a →
    records (lines.filterMap content?) (parse lines).events
  before : ∀ lines e y, (parse lines).outcome = .error e → e.line? = some y →
    y.path = source ∧ ∃ i, y.number = i + 1 ∧ contentAt? lines i = some y.line.toList ∧
      records ((lines.take i).filterMap content?) (parse lines).events

/-- The law holds of a reader whose steps leave events of one kind, if it holds of the lines that the
reader accepts. -/
theorem logsLines_of_run {R : LineReader σ} {source : Path} {s₀ : σ} {out : σ → α}
    {parse : List String → Reading α} {kind : LineKind}
    {records : List (List Char) → List Log.Event → Prop}
    (hparse : ∀ ls, parse ls = out <$> R.run s₀ (contentLines ls)) (hreports : R.Reports source)
    (hkind : ∀ s l s' v, R.step s l = .ok (s', v) → v.lineKind? = some kind)
    (hall : ∀ ls s', (R.run s₀ ls).outcome = .ok s' → records (ls.map Line.text) (R.run s₀ ls).events) :
    LogsLines kind records source parse where
  lineKind? lines v hv := by
    rw [hparse, Reading.events_map] at hv
    obtain ⟨s, l, s', hstep⟩ := LineReader.exists_step_of_mem_events hv
    exact hkind s l s' v hstep
  all lines a ha := by
    rw [hparse] at ha
    obtain ⟨s', hs', -⟩ := Reading.outcome_map_eq_ok_iff.1 ha
    rw [hparse, Reading.events_map, ← map_text_contentLines]
    exact hall _ s' hs'
  before lines e y he hy := by
    rw [hparse] at he
    obtain ⟨before, l, after, s', hsplit, hb, hl, hline⟩ :=
      hreports.exists_of_run_eq_error (Reading.outcome_map_eq_error_iff.1 he)
    obtain ⟨i, hi, ht, rfl⟩ := exists_of_contentLines_eq hsplit
    rw [hline] at hy
    obtain rfl := Option.some.inj hy
    refine ⟨rfl, i, hi, ?_, ?_⟩
    · show _ = some (String.ofList l.text).toList
      rw [String.toList_ofList, ht]
    · rw [hparse, Reading.events_map, hsplit, LineReader.events_run_of_error hb hl,
        ← map_text_contentLines]
      exact hall _ s' hb

/-! ### The three kinds of files -/

theorem parseFields_logsLines (file : Path) :
    LogsLines .field (RecordsFields file none) file (parseFields file tagDelimiter) := by
  refine logsLines_of_run (parseFields_eq_run file tagDelimiter)
    (fieldReader_reports file tagDelimiter.toList) (fun s l s' v hstep => ?_)
    fun ls s' h => recordsFields_of_run h
  obtain ⟨-, -, h⟩ | ⟨k, -, -, h⟩ | ⟨-, -, h⟩ | ⟨k, w, -, -, h⟩ :=
    fieldReader_step_cases file tagDelimiter.toList s l
  all_goals rw [h] at hstep
  · cases hstep
  · obtain ⟨-, rfl⟩ := Prod.mk.inj (Except.ok.inj hstep)
    rfl
  · cases hstep
  · obtain ⟨-, rfl⟩ := Prod.mk.inj (Except.ok.inj hstep)
    rfl

theorem recordsChecksum_of_step {file root : Path} {m m' : Manifest} {l : Line} {v : Log.Event}
    (h : (manifestReader file root).step m l = .ok (m', v)) : RecordsChecksum file root l.text v := by
  cases hl : manifestLine? l.text with
  | none =>
    rw [manifestReader_step_none hl] at h
    cases h
  | some x =>
    rw [manifestReader_step_some hl] at h
    obtain ⟨-, rfl⟩ := Prod.mk.inj (Except.ok.inj h)
    refine ⟨(String.ofList x.1, String.ofList x.2), ?_, rfl⟩
    rw [GivesChecksum, String.toList_ofList, String.toList_ofList]
    exact manifestLine?_eq_some_iff.1 hl

theorem parseManifest_logsLines {file root r : Path} (hr : root.absolute? = some r) :
    LogsLines .checksum (List.Forall₂ (RecordsChecksum file r)) file
      fun lines => parseManifest file lines root := by
  rcases parseManifest_eq_fail_or file root with ⟨e, he, hfail⟩ | ⟨algorithm, r', hf, hr'⟩
  · simp only [hfail]
    refine ⟨fun _ v hv => absurd hv List.not_mem_nil, fun _ a ha => absurd ha (by simp), ?_⟩
    intro lines e' y he' hy
    rw [← Except.error.inj he', he] at hy
    cases hy
  rw [hr] at hr'
  obtain rfl := Option.some.inj hr'
  refine logsLines_of_run (parseManifest_eq_map_run hf hr) (manifestReader_reports file r) (fun s l s' v hstep => ?_)
    fun ls s' h => LineReader.forall₂_events (fun s l s' v hstep => recordsChecksum_of_step hstep) h
  obtain ⟨x, -, rfl⟩ := recordsChecksum_of_step hstep
  rfl

theorem recordsUrl_of_step {file : Path} {items items' : List FetchItem} {l : Line} {v : Log.Event}
    (h : (fetchReader file).step items l = .ok (items', v)) : RecordsUrl file l.text v := by
  cases hl : FetchItem.parse l.text with
  | error f =>
    rw [fetchReader_step_error hl] at h
    cases h
  | ok item =>
    rw [fetchReader_step_ok hl] at h
    obtain ⟨-, rfl⟩ := Prod.mk.inj (Except.ok.inj h)
    exact ⟨item, FetchItem.parse_eq_ok_iff.1 hl, rfl⟩

theorem parseFetchList_logsLines (file : Path) :
    LogsLines .url (List.Forall₂ (RecordsUrl file)) file (parseFetchList file) := by
  refine logsLines_of_run (parseFetchList_eq_map_run file) (fetchReader_reports file) (fun s l s' v hstep => ?_)
    fun ls s' h => LineReader.forall₂_events (fun s l s' v hstep => recordsUrl_of_step hstep) h
  obtain ⟨item, -, rfl⟩ := recordsUrl_of_step hstep
  rfl

end ArchivalBag

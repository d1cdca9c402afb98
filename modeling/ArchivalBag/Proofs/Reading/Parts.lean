import ArchivalBag.Proofs.Manifest
import ArchivalBag.Proofs.Metadata
import ArchivalBag.Proofs.Reading.LineLayout

/-!
# Files in two parts

A file that is put together from two parts is read like the first part, and then like the second one
with its lines under higher numbers. What a reader has kept of the first part makes no difference to
what it does with the second one: it is carried along, and the second part is added to it. Only a fold
would ask for the last key, so the second part of a file of fields may not start with one.

* `contentLines_append`: the content lines of two parts.
* `LineReader.Carries`: a step that carries something along; `LineReader.Carries.run`: then a run does it.
* `ReadsInParts`: the law; `readsInParts_of_run`: when it holds.
* `lineParsers_readInParts`: it holds of fields, manifests and fetch lists.
-/

namespace ArchivalBag

open Text

variable {α σ : Type}

/-! ### The lines of two parts -/

theorem contentFrom_add (k n : ℕ) (ls : List String) :
    contentFrom (k + n) ls = (contentFrom n ls).map (Line.renumber (k + ·)) := by
  induction ls generalizing n with
  | nil => rfl
  | cons l ls ih =>
    have hls : contentFrom (k + n + 1) ls = (contentFrom (n + 1) ls).map (Line.renumber (k + ·)) := by
      rw [Nat.add_assoc]
      exact ih (n + 1)
    cases hl : content? l with
    | none => rw [contentFrom_cons_none hl, contentFrom_cons_none hl, hls]
    | some t => rw [contentFrom_cons_some hl, contentFrom_cons_some hl, hls]; rfl

/-- **The content lines of two parts** are those of the first one, and those of the second one under
higher numbers. -/
theorem contentLines_append (l₁ l₂ : List String) :
    contentLines (l₁ ++ l₂) =
      contentLines l₁ ++ (contentLines l₂).map (Line.renumber (l₁.length + ·)) := by
  rw [contentLines, contentFrom_append, Nat.add_comm 1, contentFrom_add]
  rfl

/-! ### What is carried along -/

/-- A change of the states that a reader carries along, in all states with the property `P`. -/
structure LineReader.Carries (R : LineReader σ) (P : σ → Prop) (carry : σ → σ) : Prop where
  step : ∀ s l, P s → R.step (carry s) l = (R.step s l).map fun x => (carry x.1, x.2)
  next : ∀ s l s' v, P s → R.step s l = .ok (s', v) → P s'

/-- **What a step carries along a run carries along.** -/
theorem LineReader.Carries.run {R : LineReader σ} {P : σ → Prop} {carry : σ → σ}
    (h : R.Carries P carry) {s : σ} (hs : P s) (ls : List Line) :
    R.run (carry s) ls = carry <$> R.run s ls := by
  induction ls generalizing s with
  | nil => rfl
  | cons l ls ih =>
    have hl := h.step s l hs
    cases hstep : R.step s l with
    | error e =>
      rw [hstep] at hl
      rw [run_cons_of_error hl, run_cons_of_error hstep]
      rfl
    | ok x =>
      obtain ⟨s', v⟩ := x
      rw [hstep] at hl
      rw [run_cons_of_ok hl, run_cons_of_ok hstep, map_bind, ih (h.next s l s' v hs hstep)]

/-- Fields that were there before are carried along, as long as the last key is one of the new ones. -/
theorem fieldReader_carries (source : Path) (delimiter : List Char) (m : Metadata) :
    (fieldReader source delimiter).Carries (fun s => ∀ k ∈ s.2, k ∈ s.1.keys)
      fun s => (m.insertAll s.1.entries, s.2) where
  step s l hs := by
    obtain ⟨hf, hlast, hstep⟩ | ⟨k, hf, hlast, hstep⟩ | ⟨hf, hk, hstep⟩ | ⟨k, v, hf, hk, hstep⟩ :=
      fieldReader_step_cases source delimiter s l
    · rw [hstep, hlast, fieldReader_step_fold_none hf]
      rfl
    · rw [hstep, hlast, fieldReader_step_fold_some hf,
        ← Metadata.insertAll_appendLine m (hs k (by rw [hlast]; rfl))]
      rfl
    · rw [hstep, fieldReader_step_key_none hf hk]
      rfl
    · rw [hstep, fieldReader_step_key_some hf hk, ← Metadata.insertAll_insert]
      rfl
  next s l s' v hs h := by
    obtain ⟨-, -, hstep⟩ | ⟨k, -, hlast, hstep⟩ | ⟨-, -, hstep⟩ | ⟨k, w, -, -, hstep⟩ :=
      fieldReader_step_cases source delimiter s l
    · rw [hstep] at h
      cases h
    · rw [hstep] at h
      obtain ⟨rfl, -⟩ := Prod.mk.inj (Except.ok.inj h)
      intro k' hk'
      obtain rfl := Option.some.inj hk'
      rw [Metadata.keys_appendLine]
      exact hs k (by rw [hlast]; rfl)
    · rw [hstep] at h
      cases h
    · rw [hstep] at h
      obtain ⟨rfl, -⟩ := Prod.mk.inj (Except.ok.inj h)
      intro k' hk'
      obtain rfl := Option.some.inj hk'
      rw [Metadata.keys_insert]
      split
      · assumption
      · exact List.mem_append_right _ (List.mem_singleton_self _)

theorem manifestReader_carries (file root : Path) (m : Manifest) :
    (manifestReader file root).Carries (fun _ => True) fun m' => m.insertAll m'.entries where
  step m' l _ := by
    cases hl : manifestLine? l.text with
    | none => rw [manifestReader_step_none hl, manifestReader_step_none hl]; rfl
    | some x =>
      rw [manifestReader_step_some hl, manifestReader_step_some hl, ← Manifest.insertAll_insert]
      rfl
  next _ _ _ _ _ _ := trivial

theorem fetchReader_carries (source : Path) (items : List FetchItem) :
    (fetchReader source).Carries (fun _ => True) (items ++ ·) where
  step items' l _ := by
    cases hl : FetchItem.parse l.text with
    | error f => rw [fetchReader_step_error hl, fetchReader_step_error hl]; rfl
    | ok item =>
      rw [fetchReader_step_ok hl, fetchReader_step_ok hl, List.append_assoc]
      rfl
  next _ _ _ _ _ _ := trivial

/-! ### The law -/

/-- **A file is read part by part.** If the first part is accepted, then what the second part says is
added to what the first one says. A line of the second part that is rejected stands behind as many
further lines as the first part has. `joins` tells of the content lines of the second part whether they
can follow another part. -/
structure ReadsInParts (parse : List String → Reading α) (joins : List (List Char) → Prop)
    (merge : α → α → α) : Prop where
  value : ∀ l₁ l₂ a₁ a₂, joins (l₂.filterMap content?) → (parse l₁).outcome = .ok a₁ →
    (parse l₂).outcome = .ok a₂ → (parse (l₁ ++ l₂)).outcome = .ok (merge a₁ a₂)
  error : ∀ l₁ l₂ a₁ e, joins (l₂.filterMap content?) → (parse l₁).outcome = .ok a₁ →
    (parse l₂).outcome = .error e →
    ∃ c, e.line? = some c ∧ (parse (l₁ ++ l₂)).outcome = .error (e.renumber (l₁.length + ·))

section Law
variable {R : LineReader σ} {source : Path} {s₀ : σ} {out : σ → α} {parse : List String → Reading α}
  {joins : List (List Char) → Prop} {merge : α → α → α}

/-- The second part is read under higher numbers, and added to the first one. -/
theorem parse_append_of_run (hparse : ∀ ls, parse ls = out <$> R.run s₀ (contentLines ls))
    (hnumber : ∀ f, R.Renumbers f)
    (hmerge : ∀ s ls, joins (ls.map Line.text) →
      out <$> R.run s ls = (fun a => merge (out s) a) <$> out <$> R.run s₀ ls)
    (l₁ : List String) {l₂ : List String} (hj : joins (l₂.filterMap content?)) :
    parse (l₁ ++ l₂) =
      parse l₁ >>= fun a₁ => merge a₁ <$> (parse l₂).renumber (l₁.length + ·) := by
  have htexts : ((contentLines l₂).map (Line.renumber (l₁.length + ·))).map Line.text =
      l₂.filterMap content? := by
    rw [List.map_map, ← map_text_contentLines]
    rfl
  rw [hparse, hparse l₁, hparse l₂, contentLines_append, LineReader.run_append, map_bind, bind_map_left]
  refine bind_congr fun s => ?_
  rw [hmerge s _ (by rwa [htexts]), (hnumber _).run_map, ← Reading.renumber_map]

/-- The law holds of a reader that carries along what it has read. -/
theorem readsInParts_of_run (hparse : ∀ ls, parse ls = out <$> R.run s₀ (contentLines ls))
    (hnumber : ∀ f, R.Renumbers f) (hreports : R.Reports source)
    (hmerge : ∀ s ls, joins (ls.map Line.text) →
      out <$> R.run s ls = (fun a => merge (out s) a) <$> out <$> R.run s₀ ls) :
    ReadsInParts parse joins merge where
  value l₁ l₂ a₁ a₂ hj h₁ h₂ := by
    rw [parse_append_of_run hparse hnumber hmerge l₁ hj, Reading.outcome_bind_of_ok h₁,
      Reading.outcome_map, Reading.renumber, h₂]
    rfl
  error l₁ l₂ a₁ e hj h₁ h₂ := by
    have hrun := h₂
    rw [hparse] at hrun
    obtain ⟨before, l, after, s', -, -, -, hline⟩ :=
      hreports.exists_of_run_eq_error (Reading.outcome_map_eq_error_iff.1 hrun)
    refine ⟨_, hline, ?_⟩
    rw [parse_append_of_run hparse hnumber hmerge l₁ hj, Reading.outcome_bind_of_ok h₁,
      Reading.outcome_map, Reading.renumber, h₂]
    rfl

end Law

/-! ### The three kinds of files -/

/-- No fold comes first. -/
def StartsWithKey (texts : List (List Char)) : Prop :=
  ∀ t ∈ texts.head?, isFold t = false

/-- What was the last key does not matter to lines that start with another one. -/
theorem map_fst_run_fieldReader {source : Path} {delimiter : List Char} {ls : List Line}
    (h : StartsWithKey (ls.map Line.text)) (m : Metadata) (last : Option String) :
    Prod.fst <$> (fieldReader source delimiter).run (m, last) ls =
      Prod.fst <$> (fieldReader source delimiter).run (m, none) ls := by
  cases ls with
  | nil => rfl
  | cons l ls =>
    have hf : isFold l.text = false := h l.text rfl
    cases hk : keyLine? delimiter l.text with
    | none =>
      rw [LineReader.run_cons_of_error (fieldReader_step_key_none hf hk _),
        LineReader.run_cons_of_error (fieldReader_step_key_none hf hk _)]
    | some kv =>
      rw [LineReader.run_cons_of_ok (fieldReader_step_key_some hf hk _),
        LineReader.run_cons_of_ok (fieldReader_step_key_some hf hk _)]

theorem parseFields_readsInParts (source : Path) (delimiter : String) :
    ReadsInParts (parseFields source delimiter) StartsWithKey fun m m' => m.insertAll m'.entries := by
  refine readsInParts_of_run (parseFields_eq_run source delimiter)
    (fun _ => fieldReader_renumbers source delimiter.toList)
    (fieldReader_reports source delimiter.toList) fun s ls hj => ?_
  obtain ⟨m, last⟩ := s
  have hcarry : (fieldReader source delimiter.toList).run (m, none) ls =
      (fun s => (m.insertAll s.1.entries, s.2)) <$>
        (fieldReader source delimiter.toList).run (.empty, none) ls :=
    (fieldReader_carries source delimiter.toList m).run (s := (.empty, none)) (by simp) ls
  rw [map_fst_run_fieldReader hj m last, hcarry, Functor.map_map, Functor.map_map]

/-- A part is not accepted if the name of the manifest or its root is rejected. -/
theorem parseManifest_readsInParts (file root : Path) :
    ReadsInParts (fun lines => parseManifest file lines root) (fun _ => True)
      fun m m' => m.insertAll m'.entries := by
  rcases parseManifest_eq_fail_or file root with ⟨e, -, hfail⟩ | ⟨algorithm, r, hf, hr⟩
  · simp only [hfail]
    exact ⟨fun _ _ _ _ _ h => absurd h (by simp), fun _ _ _ _ _ h => absurd h (by simp)⟩
  refine readsInParts_of_run (parseManifest_eq_map_run hf hr) (fun _ => manifestReader_renumbers file r)
    (manifestReader_reports file r) fun m ls _ => ?_
  have hcarry : (manifestReader file r).run m ls =
      (fun m' => m.insertAll m'.entries) <$> (manifestReader file r).run (.empty algorithm) ls :=
    (manifestReader_carries file r m).run (s := .empty algorithm) trivial ls
  rw [id_map, id_map, hcarry]
  rfl

theorem parseFetchList_readsInParts (source : Path) :
    ReadsInParts (parseFetchList source) (fun _ => True) fun items items' => items ++ items' := by
  refine readsInParts_of_run (parseFetchList_eq_map_run source) (fun _ => fetchReader_renumbers source)
    (fetchReader_reports source) fun items ls _ => ?_
  have hcarry := (fetchReader_carries source items).run (s := []) trivial ls
  rw [List.append_nil] at hcarry
  rw [id_map, id_map, hcarry]
  rfl

/-- **Fields, manifests and fetch lists are read part by part.** The fields of the second part replace
the values of keys that are there and come behind the others if their keys are new. The checksums of the
second part replace those of paths that are there, which keep their spelling. The items of the second
part come behind those of the first one. -/
theorem lineParsers_readInParts (source : Path) :
    (∀ delimiter, ReadsInParts (parseFields source delimiter) StartsWithKey
      fun m m' => m.insertAll m'.entries) ∧
    (∀ m m' : Metadata, (m.insertAll m'.entries).keys = m.keys ++ m'.keys.filter (· ∉ m.keys) ∧
      ∀ k, (m.insertAll m'.entries).get? k = (m'.get? k).or (m.get? k)) ∧
    (∀ root, ReadsInParts (fun lines => parseManifest source lines root) (fun _ => True)
      fun m m' => m.insertAll m'.entries) ∧
    (∀ m m' : Manifest, (m.insertAll m'.entries).algorithm = m.algorithm ∧
      ∀ q, ((m.insertAll m'.entries).entryOf? q).map Prod.fst =
          ((m.entryOf? q).or (m'.entryOf? q)).map Prod.fst ∧
        ((m.insertAll m'.entries).entryOf? q).map Prod.snd =
          ((m'.entryOf? q).or (m.entryOf? q)).map Prod.snd) ∧
    ReadsInParts (parseFetchList source) (fun _ => True) fun items items' => items ++ items' := by
  refine ⟨parseFields_readsInParts source, fun m m' => ?_, parseManifest_readsInParts source,
    fun m m' => ?_, parseFetchList_readsInParts source⟩
  · exact ⟨Metadata.keys_insertAll_entries m m', Metadata.get?_insertAll_entries m m'⟩
  · exact ⟨Manifest.algorithm_insertAll m m'.entries, fun q =>
      ⟨Manifest.map_fst_entryOf?_insertAll m m' q, Manifest.map_snd_entryOf?_insertAll m m' q⟩⟩

/-- Three lines, the last one a fold. -/
def contactLines : List String :=
  ["Source: a", "Contact: b", " c"]

/-- The key of the fold comes again, twice, and is given in the place it has; a line without a delimiter
is the fifth one. -/
theorem lineParsers_readInParts_repeated :
    (parseFields ⟨"bag-info.txt"⟩ ":"
        (contactLines ++ ["", "Contact: d", "Size: 1", "Contact: e", " f"])).outcome =
      .ok (.ofList [("Source", "a"), ("Contact", "e\n f"), ("Size", "1")]) ∧
    (parseFields ⟨"bag-info.txt"⟩ ":" (contactLines ++ ["Contact: d", "Size"])).outcome =
      .error (.malformedKeyValueLine ⟨⟨"bag-info.txt"⟩, 5, "Size"⟩) := by
  have hlaw := (lineParsers_readInParts ⟨"bag-info.txt"⟩).1 ":"
  have hstart : ∀ {t : List Char} {texts : List (List Char)}, isFold t = false →
      StartsWithKey (t :: texts) := by
    intro t texts ht u hu
    rwa [← Option.some.inj hu]
  constructor
  · exact hlaw.value _ _ (.ofList [("Source", "a"), ("Contact", "b\n c")])
      (.ofList [("Contact", "e\n f"), ("Size", "1")]) (hstart rfl) rfl rfl
  · obtain ⟨-, -, h⟩ := hlaw.error contactLines ["Contact: d", "Size"]
      (.ofList [("Source", "a"), ("Contact", "b\n c")]) _ (hstart rfl) rfl rfl
    exact h

end ArchivalBag

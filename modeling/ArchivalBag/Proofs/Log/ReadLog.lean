import ArchivalBag.Proofs.Log.FileRecords

/-!
# The log of reading a bag

What is logged while a bag is read agrees with the outcome. The last event tells the outcome, and all
others are details. Of a bag that was read, the log holds each content line of its control files once,
in the order of the files and their lines. If a line is rejected, it holds those in front of that line.

* `recordsOf`: the events of lines of one kind; `exists_groups_of_kind`: they are those of the files of
  this kind.
* `ClosesWith`: the last event; `readBag_of_parts_ok`, `readBag_of_parts_error`: all events of a bag.
* `LogsBag`: what is logged of the lines of a bag that was read.
* `LogAgrees`: the law; `readBag_logAgrees`: it holds of every file tree and every root.
-/

namespace ArchivalBag

open Text

variable {t : FileTree} {e : TextEncoding} {root r c p : Path} {b : Bag}

/-! ### Lines of one kind -/

/-- The events of lines of one kind. -/
def recordsOf (k : LineKind) (vs : List Log.Event) : List Log.Event :=
  vs.filter fun v => v.lineKind? = some k

theorem recordsOf_append (k : LineKind) (vs ws : List Log.Event) :
    recordsOf k (vs ++ ws) = recordsOf k vs ++ recordsOf k ws :=
  List.filter_append vs ws

theorem recordsOf_lineRecords (k : LineKind) (vs : List Log.Event) :
    recordsOf k (lineRecords vs) = recordsOf k vs := by
  rw [recordsOf, lineRecords, List.filter_filter]
  refine List.filter_congr fun v _ => ?_
  cases h : v.lineKind? with
  | none => rfl
  | some k' => exact Bool.and_true _

theorem recordsOf_group {f : TagFile} {vs : List Log.Event} (h : f.IsRecorded t r vs) (k : LineKind) :
    recordsOf k vs = if f.kind = k then vs else [] := by
  have hkind := TagFile.Records.lineKind? h
  split
  · rename_i hk
    exact List.filter_eq_self.2 fun v hv => by simp [hkind v hv, hk]
  · rename_i hk
    exact List.filter_eq_nil_iff.2 fun v hv => by simp [hkind v hv, hk]

/-- **The events of one kind** are those of the files of this kind. -/
theorem exists_groups_of_kind {fs : List TagFile} {groups : List (List Log.Event)}
    (h : List.Forall₂ (TagFile.IsRecorded t r) fs groups) (k : LineKind) :
    ∃ groups', List.Forall₂ (TagFile.IsRecorded t r) (fs.filter fun f => f.kind = k) groups' ∧
      recordsOf k groups.flatten = groups'.flatten := by
  induction h with
  | nil => exact ⟨[], .nil, rfl⟩
  | @cons f vs fs groups hf _ ih =>
    obtain ⟨groups', hgroups, heq⟩ := ih
    by_cases hk : f.kind = k
    · refine ⟨vs :: groups', ?_, ?_⟩
      · rw [List.filter_cons_of_pos (by simpa using hk)]
        exact .cons hf hgroups
      · rw [List.flatten_cons, recordsOf_append, recordsOf_group hf, if_pos hk, heq, List.flatten_cons]
    · refine ⟨groups', ?_, ?_⟩
      · rw [List.filter_cons_of_neg (by simpa using hk)]
        exact hgroups
      · rw [List.flatten_cons, recordsOf_append, recordsOf_group hf, if_neg hk, heq, List.nil_append]

/-- Files in a row leave as many events as they have content lines. -/
theorem length_flatten_of_recorded {fs : List TagFile} {groups : List (List Log.Event)}
    (h : List.Forall₂ (TagFile.IsRecorded t r) fs groups) :
    groups.flatten.length = (fs.flatMap fun f => contentOf t f.encoding f.path).length := by
  induction h with
  | nil => rfl
  | cons hf _ ih =>
    rw [List.flatten_cons, List.flatMap_cons, List.length_append, List.length_append, ih,
      TagFile.Records.length_eq hf]

/-- The control files of each kind. -/
theorem filter_tagFiles {files : List Path} (he : declaredEncoding? t c = some e)
    (hf : manifestFiles t c = .ok files) :
    ((tagFiles t c).filter fun f => f.kind = .checksum) = files.map (fun p => ⟨p, e, .checksum⟩) ∧
    ((tagFiles t c).filter fun f => f.kind = .field) = declarationTag c :: metadataTags t c e ∧
    ((tagFiles t c).filter fun f => f.kind = .url) = fetchTags t c e := by
  have hmap : ∀ (k k' : LineKind) (ps : List Path),
      ((ps.map fun p => TagFile.mk p e k').filter fun f => f.kind = k) =
        if k' = k then ps.map fun p => TagFile.mk p e k' else [] := by
    intro k k' ps
    split
    · rename_i hk
      refine List.filter_eq_self.2 fun f hmem => ?_
      obtain ⟨p, -, rfl⟩ := List.mem_map.1 hmem
      simpa using hk
    · rename_i hk
      refine List.filter_eq_nil_iff.2 fun f hmem => ?_
      obtain ⟨p, -, rfl⟩ := List.mem_map.1 hmem
      simpa using hk
  have hfiles : tagFiles t c = declarationTag c :: (files.map (fun p => TagFile.mk p e .checksum) ++
      (metadataTags t c e ++ fetchTags t c e)) := by
    rw [tagFiles, he, laterTags, manifestTags, hf]
  rw [hfiles]
  simp only [List.filter_cons, List.filter_append, declarationTag, metadataTags, fetchTags, hmap]
  simp

/-! ### All events -/

/-- The last event is this one, of this level, and all others are details. -/
def ClosesWith (events : List Log.Event) (level : Log.Level) (v : Log.Event) : Prop :=
  v.level = level ∧ ∃ es, events = es ++ [v] ∧ ∀ w ∈ es, w.level = .debug

section Parts
variable (hr : root.absolute? = some r)

include hr

/-- All events of a bag that is read. -/
theorem readBag_of_parts_ok (h : (bagParts t r (controlDirectory t r)).outcome = .ok b) :
    readBag t root = ⟨.ok b, .controlFiles r (controlDirectory t r) ::
      (bagParts t r (controlDirectory t r)).events ++ [b.readEvent]⟩ := by
  unfold readBag readBagAt
  rw [hr]
  dsimp only
  rw [assemble_eq_bagParts, Reading.bind_of_ok h]
  generalize (bagParts t r (controlDirectory t r)).events = vs
  rfl

/-- All events of a bag that is not read. -/
theorem readBag_of_parts_error {x : BagError}
    (h : (bagParts t r (controlDirectory t r)).outcome = .error x) :
    readBag t root = ⟨.error x, .controlFiles r (controlDirectory t r) ::
      (bagParts t r (controlDirectory t r)).events ++ [.bagFailed root x]⟩ := by
  unfold readBag readBagAt
  rw [hr]
  dsimp only
  rw [assemble_eq_bagParts, Reading.bind_of_error h]
  generalize (bagParts t r (controlDirectory t r)).events = vs
  rfl

end Parts

/-- The event of a directory is none of a line, and neither is the last one. -/
theorem lineRecords_events {v : Log.Event} (hv : v.lineKind? = none) (vs : List Log.Event) :
    lineRecords (.controlFiles r c :: vs ++ [v]) = lineRecords vs := by
  have hlast : lineRecords [v] = [] := by
    simp [lineRecords, hv]
  show lineRecords (vs ++ [v]) = lineRecords vs
  rw [lineRecords, List.filter_append]
  show lineRecords vs ++ lineRecords [v] = lineRecords vs
  rw [hlast, List.append_nil]

/-! ### Bags that were read -/

theorem outcome_bagParts : (bagParts t r c).outcome = (assemble t r c).outcome := by
  rw [assemble_eq_bagParts, Reading.outcome_bind]
  cases (bagParts t r c).outcome <;> rfl

/-- What has been read of a bag. -/
theorem exists_of_bagParts (h : (bagParts t r c).outcome = .ok b) :
    ∃ e files, Declares t c e ∧ manifestFiles t c = .ok files ∧
      ((fetchPath? t c = none ∧ b.fetchItems = []) ∨
        fetchPath? t c = some (c.join fetchFile) ∧
          (readFetchList t e (c.join fetchFile)).outcome = .ok b.fetchItems) := by
  rw [outcome_bagParts] at h
  obtain ⟨-, b₁, h₁, b₂, h₂, b₃, h₃, h₄⟩ := assemble_eq_ok_iff.1 h
  obtain ⟨d, e, hd, he, hb₁⟩ := addDeclaration_eq_ok_iff.1 h₁
  have he₁ : TextEncoding.ofLabel? b₁.encoding = some e := by rw [hb₁]; exact he
  obtain ⟨files, hfiles, ms, -, hb₂⟩ := (addManifests_eq_ok_iff he₁).1 h₂
  have he₂ : TextEncoding.ofLabel? b₂.encoding = some e := by rw [← hb₂]; exact he₁
  obtain ⟨m, -, hb₃⟩ := (addMetadata_eq_ok_iff he₂).1 h₃
  have he₃ : TextEncoding.ofLabel? b₃.encoding = some e := by rw [← hb₃]; exact he₂
  refine ⟨e, files, ⟨d, hd, he⟩, hfiles, ?_⟩
  unfold fetchPath?
  rcases (addFetchListIn_eq_ok_iff he₃).1 h₄ with ⟨hc, hb⟩ | ⟨hc, items, hitems, hb⟩
  · refine .inl ⟨by rw [hc]; rfl, ?_⟩
    rw [← hb, ← hb₃, ← hb₂, hb₁]
    rfl
  · refine .inr ⟨if_pos hc, ?_⟩
    rw [← hb]
    exact hitems

/-- The events of the lines of a fetch list are those of its items. -/
theorem eq_map_of_recordsUrl {ts : List (List Char)} {items : List FetchItem} {vs : List Log.Event}
    (h : List.Forall₂ IsFetchLine ts items) (hv : List.Forall₂ (RecordsUrl p) ts vs) :
    vs = items.map fun item => .urlRead item p := by
  induction h generalizing vs with
  | nil => cases hv; rfl
  | cons hl _ ih =>
    cases hv with
    | cons hrecord hv =>
      obtain ⟨item, hitem, rfl⟩ := hrecord
      have hparse := FetchItem.parse_eq_ok_iff.2 hitem
      rw [FetchItem.parse_eq_ok_iff.2 hl] at hparse
      rw [List.map_cons, Except.ok.inj hparse, ih hv]

/-- **The lines of a bag in its log.** The checksums are those of the manifests in the order of their
paths, one for each content line; the URLs are those of the items; the keys and folds are those of the
declaration and then of the metadata. -/
structure LogsBag (t : FileTree) (r c : Path) (e : TextEncoding) (b : Bag) (events : List Log.Event) :
    Prop where
  checksums : ∃ files groups, manifestFiles t c = .ok files ∧
    (files.Pairwise fun p q => ¬ q.key < p.key) ∧
    List.Forall₂ (fun p vs => List.Forall₂ (RecordsChecksum p r) (contentOf t e p) vs) files groups ∧
    recordsOf .checksum events = groups.flatten ∧
    (recordsOf .checksum events).length = (files.flatMap (contentOf t e)).length
  urls : recordsOf .url events = b.fetchItems.map fun item => .urlRead item (c.join fetchFile)
  fields : ∃ vs groups,
    RecordsFields (c.join declarationFile) none (contentOf t .utf8 (c.join declarationFile)) vs ∧
    List.Forall₂ (fun p ws => RecordsFields p none (contentOf t e p) ws) (metadataPath? t c).toList
      groups ∧
    recordsOf .field events = vs ++ groups.flatten

/-- Only the events of lines count. -/
theorem LogsBag.congr {vs ws : List Log.Event} (h : LogsBag t r c e b vs)
    (heq : lineRecords vs = lineRecords ws) : LogsBag t r c e b ws := by
  have hkind : ∀ k, recordsOf k vs = recordsOf k ws := fun k => by
    rw [← recordsOf_lineRecords, heq, recordsOf_lineRecords]
  refine ⟨?_, ?_, ?_⟩
  · rw [← hkind]
    exact h.checksums
  · rw [← hkind]
    exact h.urls
  · rw [← hkind]
    exact h.fields

/-- The lines of a bag that was read are in its log. -/
theorem logsBag_of_parts (hr : r.absolute? = some r) (h : (bagParts t r c).outcome = .ok b) :
    ∃ e, Declares t c e ∧ LogsBag t r c e b (bagParts t r c).events := by
  obtain ⟨e, files, hd, hfiles, hitems⟩ := exists_of_bagParts h
  obtain ⟨groups, hgroups, hvs⟩ := (bagParts_logsFiles hr).all b h
  have hkind : ∀ k, recordsOf k (bagParts t r c).events = recordsOf k groups.flatten := fun k => by
    rw [← hvs, recordsOf_lineRecords]
  obtain ⟨hchecksum, hfield, hurl⟩ := filter_tagFiles (declaredEncoding?_eq_some_iff.2 hd) hfiles
  refine ⟨e, hd, ?_, ?_, ?_⟩
  · obtain ⟨gs, hgs, heq⟩ := exists_groups_of_kind hgroups .checksum
    rw [hchecksum] at hgs
    refine ⟨files, gs, hfiles, ?_, List.forall₂_map_left_iff.1 hgs, by rw [hkind, heq], ?_⟩
    · unfold manifestFiles at hfiles
      split at hfiles
      · cases hfiles
      · rw [← Except.ok.inj hfiles]
        exact pairwise_sortPaths _
    · rw [hkind, heq, length_flatten_of_recorded hgs, List.flatMap_map]
  · obtain ⟨gs, hgs, heq⟩ := exists_groups_of_kind hgroups .url
    rw [hurl, fetchTags] at hgs
    rw [hkind, heq]
    rcases hitems with ⟨hpath, hb⟩ | ⟨hpath, hread⟩
    · rw [hpath] at hgs
      cases hgs
      rw [hb]
      rfl
    · rw [hpath] at hgs
      obtain ⟨text, htext, hparse⟩ := Reading.outcome_bind_eq_ok_iff.1 hread
      cases hgs with
      | @cons _ vs _ _ hv hnil =>
        cases hnil
        have hlines : List.Forall₂ IsFetchLine (contentOf t e (c.join fetchFile)) b.fetchItems := by
          rw [contentOf, linesOf_eq htext]
          exact parseFetchList_eq_ok_iff.1 hparse
        rw [List.flatten_singleton]
        exact eq_map_of_recordsUrl hlines hv
  · obtain ⟨gs, hgs, heq⟩ := exists_groups_of_kind hgroups .field
    rw [hfield] at hgs
    cases hgs with
    | @cons _ vs _ gs hv hgs =>
      rw [metadataTags, List.forall₂_map_left_iff] at hgs
      exact ⟨vs, gs, hv, hgs, by rw [hkind, heq, List.flatten_cons]⟩

/-! ### The law -/

/-- **The log of reading a bag agrees with the outcome.** -/
structure LogAgrees (t : FileTree) (root : Path) : Prop where
  /-- The last event of a bag that was read tells its root, its version and the numbers of its parts, and
  the log holds the lines of the bag. -/
  read : ∀ b, (readBag t root).outcome = .ok b →
    ClosesWith (readBag t root).events .info
      (.bagRead b.root b.version b.payloadManifests.length b.tagManifests.length b.metadata.size
        b.fetchItems.length) ∧
    ∃ r e, root.absolute? = some r ∧ Declares t (controlDirectory t r) e ∧
      LogsBag t r (controlDirectory t r) e b (readBag t root).events
  /-- The last event of a bag that was not read tells the error. -/
  failed : ∀ x, (readBag t root).outcome = .error x →
    ClosesWith (readBag t root).events .warn (.bagFailed root x) ∧
    (Log.Event.bagFailed root x).message =
      "Failed to read bag [" ++ root.text ++ "] (" ++ x.category.name ++ "): " ++ x.message
  /-- If a line is rejected, the log holds all content lines of the files in front of its file, and those
  in front of the line. -/
  rejected : ∀ x y, (readBag t root).outcome = .error x → x.line? = some y →
    ∃ r before f after groups vs, root.absolute? = some r ∧
      tagFiles t (controlDirectory t r) = before ++ f :: after ∧
      List.Forall₂ (TagFile.IsRecorded t r) before groups ∧ f.IsRecordedUpTo t r y vs ∧
      lineRecords (readBag t root).events = groups.flatten ++ vs

theorem logAgrees_of_absolute?_eq_none (hr : root.absolute? = none) : LogAgrees t root := by
  have hread : readBag t root = ⟨.error (.fileUnreadable root .emptyPath),
      [.bagFailed root (.fileUnreadable root .emptyPath)]⟩ := by
    rw [readBag, hr]
    rfl
  refine ⟨fun b hb => ?_, fun x hx => ?_, fun x y hx hy => ?_⟩
  · rw [hread] at hb
    cases hb
  · rw [hread] at hx ⊢
    obtain rfl := Except.error.inj hx
    exact ⟨⟨rfl, [], rfl, fun w hw => absurd hw List.not_mem_nil⟩, rfl⟩
  · rw [hread] at hx
    rw [← Except.error.inj hx] at hy
    cases hy

section Absolute
variable (hr : root.absolute? = some r)

include hr

/-- The events in front of the last one are details. -/
theorem level_events (v : Log.Event)
    (hv : v ∈ Log.Event.controlFiles r c :: (bagParts t r c).events) : v.level = .debug := by
  rcases List.mem_cons.1 hv with rfl | hv
  · rfl
  · exact (bagParts_logsFiles (Path.absolute?_absolute? hr)).level v hv

theorem logAgrees_of_ok (h : (bagParts t r (controlDirectory t r)).outcome = .ok b) :
    LogAgrees t root := by
  have hread := readBag_of_parts_ok hr h
  refine ⟨fun b' hb => ?_, fun x hx => ?_, fun x y hx _ => ?_⟩
  · rw [hread] at hb ⊢
    obtain rfl := Except.ok.inj hb
    obtain ⟨e, hd, hbag⟩ := logsBag_of_parts (Path.absolute?_absolute? hr) h
    exact ⟨⟨rfl, _, rfl, level_events hr⟩, r, e, hr, hd, hbag.congr (lineRecords_events rfl _).symm⟩
  · rw [hread] at hx
    cases hx
  · rw [hread] at hx
    cases hx

theorem logAgrees_of_error {x : BagError}
    (h : (bagParts t r (controlDirectory t r)).outcome = .error x) : LogAgrees t root := by
  have hread := readBag_of_parts_error hr h
  refine ⟨fun b hb => ?_, fun x' hx => ?_, fun x' y hx hy => ?_⟩
  · rw [hread] at hb
    cases hb
  · rw [hread] at hx ⊢
    obtain rfl := Except.error.inj hx
    exact ⟨⟨rfl, _, rfl, level_events hr⟩, rfl⟩
  · rw [hread] at hx ⊢
    obtain rfl := Except.error.inj hx
    obtain ⟨before, f, after, groups, vs, hfs, hbefore, hf, hvs⟩ :=
      (bagParts_logsFiles (Path.absolute?_absolute? hr)).upTo x y h hy
    refine ⟨r, before, f, after, groups, vs, hr, hfs, hbefore, hf, ?_⟩
    rw [lineRecords_events rfl, hvs]

end Absolute

/-- **The log agrees with the outcome** for every file tree and every root. -/
theorem readBag_logAgrees (t : FileTree) (root : Path) : LogAgrees t root := by
  cases hr : root.absolute? with
  | none => exact logAgrees_of_absolute?_eq_none hr
  | some r =>
    cases h : (bagParts t r (controlDirectory t r)).outcome with
    | ok b => exact logAgrees_of_ok hr h
    | error x => exact logAgrees_of_error hr h

end ArchivalBag

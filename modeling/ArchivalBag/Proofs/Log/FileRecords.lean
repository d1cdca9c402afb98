import ArchivalBag.Proofs.Log.LineRecords
import ArchivalBag.Proofs.Path
import ArchivalBag.Proofs.Reading.Failures

/-!
# What is recorded of the files of a bag

The control files of a bag are read in a row, and so are the events of their lines: those of one file
stand together, behind those of the files in front of it. Where a line is rejected the events end.

* `TagFile`: a control file with its encoding and the kind of its lines; `tagFiles`: those of a bag in the
  order in which they are read.
* `TagFile.IsRecorded`, `TagFile.IsRecordedUpTo`: the events of a file, as a whole or up to a line.
* `LogsFiles`: the law; `LogsFiles.bind`: it holds of readings in a row.
* `bagParts_logsFiles`: it holds of the files of a bag.
-/

namespace ArchivalBag

open Text

variable {α β : Type} {t : FileTree} {e : TextEncoding} {r c p : Path}

/-! ### Control files -/

/-- A control file. -/
structure TagFile where
  path : Path
  encoding : TextEncoding
  kind : LineKind

/-- The lines of a file; there are none if the file has no text. -/
def linesOf (t : FileTree) (e : TextEncoding) (p : Path) : List String :=
  match (readText t e p).outcome with
  | .ok text => Text.lines text
  | .error _ => []

theorem linesOf_eq {text : String} (h : (readText t e p).outcome = .ok text) :
    linesOf t e p = Text.lines text := by
  rw [linesOf, h]

/-- The content lines of a file. -/
def contentOf (t : FileTree) (e : TextEncoding) (p : Path) : List (List Char) :=
  (linesOf t e p).filterMap content?

namespace TagFile

/-- The events of content lines of a file, for a bag at the root `r`. -/
def Records (r : Path) (f : TagFile) : List (List Char) → List Log.Event → Prop :=
  match f.kind with
  | .field => RecordsFields f.path none
  | .checksum => List.Forall₂ (RecordsChecksum f.path r)
  | .url => List.Forall₂ (RecordsUrl f.path)

/-- The events of all content lines of a file. -/
def IsRecorded (t : FileTree) (r : Path) (f : TagFile) (vs : List Log.Event) : Prop :=
  f.Records r (contentOf t f.encoding f.path) vs

/-- The events of the content lines of a file in front of a line that stands there. -/
def IsRecordedUpTo (t : FileTree) (r : Path) (y : LineContext) (f : TagFile) (vs : List Log.Event) :
    Prop :=
  y.path = f.path ∧ ∃ i, y.number = i + 1 ∧
    contentAt? (linesOf t f.encoding f.path) i = some y.line.toList ∧
    f.Records r (((linesOf t f.encoding f.path).take i).filterMap content?) vs

end TagFile

/-! ### Events that are of the kind of their file -/

theorem RecordsFields.lineKind? {last : Option String} {ts : List (List Char)} {vs : List Log.Event}
    (h : RecordsFields p last ts vs) : ∀ v ∈ vs, v.lineKind? = some .field := by
  induction h with
  | nil => exact fun v hv => absurd hv List.not_mem_nil
  | key _ _ _ ih => exact List.forall_mem_cons.2 ⟨rfl, ih⟩
  | fold _ _ ih => exact List.forall_mem_cons.2 ⟨rfl, ih⟩

theorem RecordsFields.length_eq {last : Option String} {ts : List (List Char)} {vs : List Log.Event}
    (h : RecordsFields p last ts vs) : vs.length = ts.length := by
  induction h with
  | nil => rfl
  | key _ _ _ ih => rw [List.length_cons, List.length_cons, ih]
  | fold _ _ ih => rw [List.length_cons, List.length_cons, ih]

theorem TagFile.Records.lineKind? {f : TagFile} {ts : List (List Char)} {vs : List Log.Event}
    (h : f.Records r ts vs) : ∀ v ∈ vs, v.lineKind? = some f.kind := by
  obtain ⟨path, encoding, kind⟩ := f
  intro v hv
  cases kind with
  | field => exact RecordsFields.lineKind? h v hv
  | checksum =>
    obtain ⟨_, -, x, -, rfl⟩ := exists_mem_of_forall₂ h hv
    rfl
  | url =>
    obtain ⟨_, -, item, -, rfl⟩ := exists_mem_of_forall₂ h hv
    rfl

/-- **One event for each content line.** -/
theorem TagFile.Records.length_eq {f : TagFile} {ts : List (List Char)} {vs : List Log.Event}
    (h : f.Records r ts vs) : vs.length = ts.length := by
  obtain ⟨path, encoding, kind⟩ := f
  cases kind with
  | field => exact RecordsFields.length_eq h
  | checksum => exact (List.Forall₂.length_eq h).symm
  | url => exact (List.Forall₂.length_eq h).symm

/-! ### The law -/

/-- The events of lines among some events. -/
def lineRecords (vs : List Log.Event) : List Log.Event :=
  vs.filter fun v => v.lineKind?.isSome

theorem lineRecords_eq_self {vs : List Log.Event} {k : LineKind}
    (h : ∀ v ∈ vs, v.lineKind? = some k) : lineRecords vs = vs :=
  List.filter_eq_self.2 fun v hv => by rw [h v hv]; rfl

/-- **What is recorded of files in a row.** All events are details. If all files are read, then the
events of lines are those of all content lines, file by file. If a line is rejected, then they are those
of the files in front of a file that holds the line, and of the content lines in front of it. -/
structure LogsFiles (t : FileTree) (r : Path) (fs : List TagFile) (x : Reading α) : Prop where
  level : ∀ v ∈ x.events, v.level = .debug
  all : ∀ a, x.outcome = .ok a → ∃ groups, List.Forall₂ (TagFile.IsRecorded t r) fs groups ∧
    lineRecords x.events = groups.flatten
  upTo : ∀ err y, x.outcome = .error err → err.line? = some y → ∃ before f after groups vs,
    fs = before ++ f :: after ∧ List.Forall₂ (TagFile.IsRecorded t r) before groups ∧
    f.IsRecordedUpTo t r y vs ∧ lineRecords x.events = groups.flatten ++ vs

namespace LogsFiles

/-- A reading that no line is read in. -/
theorem of_silent {x : Reading α} (hv : ∀ v ∈ x.events, v.lineKind? = none ∧ v.level = .debug)
    (he : ∀ err, x.outcome = .error err → err.line? = none) : LogsFiles t r [] x where
  level v hmem := (hv v hmem).2
  all a _ := by
    refine ⟨[], .nil, List.filter_eq_nil_iff.2 fun v hmem => ?_⟩
    rw [(hv v hmem).1]
    exact Bool.false_ne_true
  upTo err y herr hy := by
    rw [he err herr] at hy
    cases hy

theorem pure (a : α) : LogsFiles t r [] (Pure.pure a : Reading α) :=
  of_silent (fun v hv => absurd hv List.not_mem_nil) fun _ h => absurd h (by simp)

theorem note {v : Log.Event} (hk : v.lineKind? = none) (hl : v.level = .debug) :
    LogsFiles t r [] (Reading.note v) :=
  of_silent (fun w hw => by rw [List.mem_singleton.1 hw]; exact ⟨hk, hl⟩) fun _ h => by cases h

/-- Where no line is rejected nothing is said of the files. -/
theorem fail {err : BagError} (h : err.line? = none) (fs : List TagFile) :
    LogsFiles t r fs (Reading.fail err : Reading α) where
  level v hv := absurd hv List.not_mem_nil
  all a ha := by cases ha
  upTo err' y herr hy := by
    rw [← Except.error.inj herr, h] at hy
    cases hy

/-- **Files in a row** are recorded in a row. -/
theorem bind {fs gs : List TagFile} {x : Reading α} {f : α → Reading β} (hx : LogsFiles t r fs x)
    (hf : ∀ a, x.outcome = .ok a → LogsFiles t r gs (f a)) : LogsFiles t r (fs ++ gs) (x >>= f) := by
  cases ho : x.outcome with
  | error err =>
    rw [Reading.bind_of_error ho]
    refine ⟨hx.level, fun a ha => (nomatch ha), fun err' y herr hy => ?_⟩
    obtain rfl := Except.error.inj herr
    obtain ⟨before, g, after, groups, vs, rfl, hbefore, hg, hvs⟩ := hx.upTo err y ho hy
    exact ⟨before, g, after ++ gs, groups, vs, by rw [List.append_assoc]; rfl, hbefore, hg, hvs⟩
  | ok a =>
    obtain ⟨groups, hgroups, hvs⟩ := hx.all a ho
    have hy := hf a ho
    rw [Reading.bind_of_ok ho]
    have hsplit : lineRecords (x.events ++ (f a).events) =
        lineRecords x.events ++ lineRecords (f a).events := List.filter_append _ _
    refine ⟨fun v hv => ?_, fun b hb => ?_, fun err y herr hline => ?_⟩
    · rcases List.mem_append.1 hv with hv | hv
      · exact hx.level v hv
      · exact hy.level v hv
    · obtain ⟨groups', hgroups', hvs'⟩ := hy.all b hb
      refine ⟨groups ++ groups', List.rel_append hgroups hgroups', ?_⟩
      rw [hsplit, hvs, hvs', List.flatten_append]
    · obtain ⟨before, g, after, groups', vs, rfl, hbefore, hg, hvs'⟩ := hy.upTo err y herr hline
      refine ⟨fs ++ before, g, after, groups ++ groups', vs, by rw [List.append_assoc],
        List.rel_append hgroups hbefore, hg, ?_⟩
      rw [hsplit, hvs, hvs', List.flatten_append, List.append_assoc]

/-- What comes in front of the files without reading a line. -/
theorem silent_bind {fs : List TagFile} {x : Reading α} {f : α → Reading β} (hx : LogsFiles t r [] x)
    (hf : ∀ a, x.outcome = .ok a → LogsFiles t r fs (f a)) : LogsFiles t r fs (x >>= f) :=
  hx.bind hf

/-- What comes behind the files without reading a line. -/
theorem bind_silent {fs : List TagFile} {x : Reading α} {f : α → Reading β} (hx : LogsFiles t r fs x)
    (hf : ∀ a, x.outcome = .ok a → LogsFiles t r [] (f a)) : LogsFiles t r fs (x >>= f) := by
  have h := hx.bind hf
  rwa [List.append_nil] at h

end LogsFiles

/-! ### One file -/

theorem readText_logsFiles : LogsFiles t r [] (readText t e p) := by
  refine .of_silent (fun v hv => ?_) fun err herr => ?_
  · unfold readText at hv
    split at hv
    · cases hv
    · split at hv <;> cases hv
  · obtain ⟨f, rfl⟩ := exists_fault_of_readText herr
    rfl

/-- The text of a file is read silently, and then its lines. -/
theorem LogsLines.logsFiles {f : TagFile} {parse : List String → Reading α}
    (h : LogsLines f.kind (f.Records r) f.path parse) :
    LogsFiles t r [f] (readText t f.encoding f.path >>= fun text => parse (Text.lines text)) := by
  refine readText_logsFiles.silent_bind fun text htext => ?_
  have hlines := linesOf_eq htext
  have hself := lineRecords_eq_self (h.lineKind? (Text.lines text))
  refine ⟨fun v hv => Log.Event.level_of_lineKind? (h.lineKind? _ v hv), fun a ha => ?_,
    fun err y herr hy => ?_⟩
  · refine ⟨[(parse (Text.lines text)).events], .cons ?_ .nil, ?_⟩
    · rw [TagFile.IsRecorded, contentOf, hlines]
      exact h.all _ a ha
    · rw [hself, List.flatten_singleton]
  · obtain ⟨hpath, i, hi, ht, hrecords⟩ := h.before _ err y herr hy
    refine ⟨[], f, [], [], (parse (Text.lines text)).events, rfl, .nil, ⟨hpath, i, hi, ?_, ?_⟩, ?_⟩
    · rw [hlines]
      exact ht
    · rw [hlines]
      exact hrecords
    · rw [hself]
      rfl

theorem readFields_logsFiles :
    LogsFiles t r [⟨p, e, .field⟩] (readFields t e p tagDelimiter) :=
  LogsLines.logsFiles (f := ⟨p, e, .field⟩) (parseFields_logsLines p)

theorem readFetchList_logsFiles : LogsFiles t r [⟨p, e, .url⟩] (readFetchList t e p) :=
  LogsLines.logsFiles (f := ⟨p, e, .url⟩) (parseFetchList_logsLines p)

theorem judgeName_logsFiles : LogsFiles t r [] (judgeName p) := by
  unfold judgeName manifestAlgorithm
  split
  · exact .pure ()
  · cases Manifest.algorithm? _ with
    | none => exact .fail rfl []
    | some a => exact .pure ()

theorem readManifest_logsFiles (hr : r.absolute? = some r) :
    LogsFiles t r [⟨p, e, .checksum⟩] (readManifest t e p r) :=
  (LogsFiles.note rfl rfl).silent_bind fun _ _ =>
    judgeName_logsFiles.silent_bind fun _ _ =>
      LogsLines.logsFiles (f := ⟨p, e, .checksum⟩) (parseManifest_logsLines hr)

/-! ### The files of a bag -/

/-- The encoding of the files behind the declaration, if the declaration can be read and names one. -/
def declaredEncoding? (t : FileTree) (c : Path) : Option TextEncoding :=
  match (readDeclaration t (c.join declarationFile)).outcome with
  | .ok d => TextEncoding.ofLabel? d.encoding
  | .error _ => none

theorem declaredEncoding?_eq_some_iff : declaredEncoding? t c = some e ↔ Declares t c e := by
  unfold declaredEncoding? Declares
  cases (readDeclaration t (c.join declarationFile)).outcome <;> simp

/-- The file with the metadata, under its current or its former name. -/
def metadataPath? (t : FileTree) (c : Path) : Option Path :=
  if t.contains (c.join metadataFile) then some (c.join metadataFile)
  else if t.contains (c.join legacyMetadataFile) then some (c.join legacyMetadataFile)
  else none

/-- The file with the fetch list. -/
def fetchPath? (t : FileTree) (c : Path) : Option Path :=
  if t.contains (c.join fetchFile) then some (c.join fetchFile) else none

/-- The file with the declaration. -/
def declarationTag (c : Path) : TagFile :=
  ⟨c.join declarationFile, .utf8, .field⟩

/-- The manifests of a directory. -/
def manifestTags (t : FileTree) (c : Path) (e : TextEncoding) : List TagFile :=
  match manifestFiles t c with
  | .ok files => files.map fun p => ⟨p, e, .checksum⟩
  | .error _ => []

/-- The file with the metadata, if there is one. -/
def metadataTags (t : FileTree) (c : Path) (e : TextEncoding) : List TagFile :=
  (metadataPath? t c).toList.map fun p => ⟨p, e, .field⟩

/-- The file with the fetch list, if there is one. -/
def fetchTags (t : FileTree) (c : Path) (e : TextEncoding) : List TagFile :=
  (fetchPath? t c).toList.map fun p => ⟨p, e, .url⟩

/-- The control files behind the declaration, in the order in which they are read. -/
def laterTags (t : FileTree) (c : Path) : Option TextEncoding → List TagFile
  | none => []
  | some e => manifestTags t c e ++ (metadataTags t c e ++ fetchTags t c e)

/-- The control files of a bag, in the order in which they are read. -/
def tagFiles (t : FileTree) (c : Path) : List TagFile :=
  declarationTag c :: laterTags t c (declaredEncoding? t c)

theorem require_logsFiles {fields : Metadata} {k : String} :
    LogsFiles t r [] (Declaration.require p fields k) := by
  unfold Declaration.require
  split
  · exact .pure _
  · exact .fail rfl []

theorem ofFields_logsFiles {fields : Metadata} : LogsFiles t r [] (Declaration.ofFields p fields) := by
  unfold Declaration.ofFields
  refine require_logsFiles.bind_silent fun token _ => ?_
  refine (LogsFiles.note rfl rfl).bind_silent fun _ _ => ?_
  refine require_logsFiles.bind_silent fun label _ => ?_
  refine (LogsFiles.note rfl rfl).bind_silent fun _ _ => ?_
  unfold Declaration.parseVersion
  cases Version.parse token with
  | ok v => exact .pure _
  | error f => exact .fail rfl []

theorem readDeclaration_logsFiles : LogsFiles t r [⟨p, .utf8, .field⟩] (readDeclaration t p) :=
  (LogsFiles.note rfl rfl).silent_bind fun _ _ =>
    readFields_logsFiles.bind_silent fun _ _ => ofFields_logsFiles

theorem addDeclaration_logsFiles {b : Bag} :
    LogsFiles t r [declarationTag c] (addDeclaration t (c.join declarationFile) b) := by
  refine readDeclaration_logsFiles.bind_silent fun d _ => ?_
  cases TextEncoding.ofLabel? d.encoding with
  | none => exact .fail rfl []
  | some e => exact .pure _

theorem line?_of_manifestFiles {x : BagError} (h : manifestFiles t c = .error x) : x.line? = none := by
  unfold manifestFiles at h
  split at h
  · rw [← Except.error.inj h]
    rfl
  · cases h

theorem readManifests_logsFiles (hr : r.absolute? = some r) (files : List Path) :
    LogsFiles t r (files.map fun p => ⟨p, e, .checksum⟩) (readManifests t e r files) := by
  induction files with
  | nil => exact .pure []
  | cons p files ih =>
    show LogsFiles t r ([⟨p, e, .checksum⟩] ++ files.map fun p => ⟨p, e, .checksum⟩) _
    exact (readManifest_logsFiles hr).bind fun m _ => ih.bind_silent fun ms _ => .pure _

section Encoded
variable {b : Bag} (he : TextEncoding.ofLabel? b.encoding = some e)

include he

theorem addManifests_logsFiles (hb : b.root = r) (hr : r.absolute? = some r) :
    LogsFiles t r (manifestTags t c e) (addManifests t c b) := by
  rw [addManifests, declaredEncoding_eq he, Reading.pure_bind, hb]
  unfold manifestTags
  cases hfiles : manifestFiles t c with
  | error x => exact .fail (line?_of_manifestFiles hfiles) []
  | ok files =>
    refine (LogsFiles.pure files).silent_bind fun files' hfiles' => ?_
    obtain rfl := Except.ok.inj hfiles'
    exact (readManifests_logsFiles hr files).bind_silent fun ms _ => .pure _

theorem addMetadata_logsFiles : LogsFiles t r (metadataTags t c e) (addMetadata t c b) := by
  rw [addMetadata, declaredEncoding_eq he, Reading.pure_bind]
  refine LogsFiles.bind_silent ?_ fun m _ => .pure _
  unfold readMetadata metadataTags metadataPath?
  dsimp only
  split
  · exact (LogsFiles.note rfl rfl).silent_bind fun _ _ => readFields_logsFiles
  · split
    · exact (LogsFiles.note rfl rfl).silent_bind fun _ _ => readFields_logsFiles
    · exact .pure _

theorem addFetchListIn_logsFiles : LogsFiles t r (fetchTags t c e) (addFetchListIn t c b) := by
  unfold addFetchListIn addFetchList fetchTags fetchPath?
  dsimp only
  split
  · rw [declaredEncoding_eq he, Reading.pure_bind]
    exact readFetchList_logsFiles.bind_silent fun items _ => .pure _
  · exact .pure _

end Encoded

/-- The parts of a bag, without the event of a bag that was read. -/
def bagParts (t : FileTree) (root dir : Path) : Reading Bag :=
  if t.contains (dir.join declarationFile) then
    addDeclaration t (dir.join declarationFile) (.new root) >>= fun b => addManifests t dir b >>= fun b =>
      addMetadata t dir b >>= fun b => addFetchListIn t dir b
  else .fail (.missingFile (dir.join declarationFile))

theorem assemble_eq_bagParts (t : FileTree) (root dir : Path) :
    assemble t root dir = bagParts t root dir >>= fun b => .note b.readEvent >>= fun _ => pure b := by
  unfold assemble bagParts
  dsimp only
  split
  · simp only [bind_assoc]
  · rfl

/-- **The control files of a bag** are recorded in a row. -/
theorem bagParts_logsFiles (hr : r.absolute? = some r) :
    LogsFiles t r (tagFiles t c) (bagParts t r c) := by
  unfold bagParts
  split
  · show LogsFiles t r ([declarationTag c] ++ laterTags t c (declaredEncoding? t c)) _
    refine addDeclaration_logsFiles.bind fun b₁ h₁ => ?_
    obtain ⟨d, e, hd, he, hb₁⟩ := addDeclaration_eq_ok_iff.1 h₁
    have he₁ : TextEncoding.ofLabel? b₁.encoding = some e := by rw [hb₁]; exact he
    have hroot : b₁.root = r := by rw [hb₁]; rfl
    rw [declaredEncoding?_eq_some_iff.2 ⟨d, hd, he⟩]
    refine (addManifests_logsFiles he₁ hroot hr).bind fun b₂ h₂ => ?_
    obtain ⟨files, -, ms, -, hb₂⟩ := (addManifests_eq_ok_iff he₁).1 h₂
    have he₂ : TextEncoding.ofLabel? b₂.encoding = some e := by rw [← hb₂]; exact he₁
    refine (addMetadata_logsFiles he₂).bind fun b₃ h₃ => ?_
    obtain ⟨m, -, hb₃⟩ := (addMetadata_eq_ok_iff he₂).1 h₃
    have he₃ : TextEncoding.ofLabel? b₃.encoding = some e := by rw [← hb₃]; exact he₂
    exact addFetchListIn_logsFiles he₃
  · exact .fail rfl _

end ArchivalBag

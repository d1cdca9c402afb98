import ArchivalBag.Config.File
import ArchivalBag.Proofs.Encoding.Utf8
import ArchivalBag.Proofs.FileTree.Storing
import ArchivalBag.Proofs.Toml.Document

/-!
# Configurations read back from their files

A written configuration has a line for each field that is set. The file to log to has no line if there
is none, which is told from an empty path, since that has a line with an empty string.

* `Config.lines`, `Config.toToml_eq`: the lines of a written configuration.
* `Config.parse?_toToml`: the entries that are read of it; `Config.find?_logFile`: the one of the file to
  log to.
* `Config.ofToml?_toToml`: the text is read back.
* `Config.load_of_save`: the file is.
-/

namespace ArchivalBag.Config

open Toml

/-! ### The text -/

/-- The lines of a written configuration. -/
def lines (c : Config) : List Line :=
  ⟨levelField, textOfString c.level.name, .string c.level.name⟩ ::
    (c.logFile.toList.map fun p => ⟨logFileField, textOfString p.text, .string p.text⟩) ++
    [⟨verboseField, textOfBool c.verbose, .bool c.verbose⟩]

theorem toToml_eq (c : Config) : c.toToml = String.ofList (c.lines.flatMap Line.content) := by
  unfold toToml lines
  cases c.logFile with
  | none => simp [logFileLine, Line.content]
  | some p => simp [logFileLine, Line.content]

theorem isLegible_of_mem_lines {c : Config} {l : Line} (h : l ∈ c.lines) : l.IsLegible := by
  have hlevel : IsBareKey levelField := by decide
  have hlogFile : IsBareKey logFileField := by decide
  have hverbose : IsBareKey verboseField := by decide
  unfold lines at h
  rcases List.mem_append.1 h with h | h
  · rcases List.mem_cons.1 h with rfl | h
    · exact ⟨hlevel, isWrittenAs_string _⟩
    · obtain ⟨p, -, rfl⟩ := List.mem_map.1 h
      exact ⟨hlogFile, isWrittenAs_string _⟩
  · obtain rfl := List.mem_singleton.1 h
    exact ⟨hverbose, isWrittenAs_bool _⟩

theorem nodup_lines (c : Config) : (c.lines.map Line.key).Nodup := by
  unfold lines
  cases c.logFile with
  | none =>
    show [levelField, verboseField].Nodup
    decide
  | some p =>
    show [levelField, logFileField, verboseField].Nodup
    decide

/-- The entries of a written configuration. -/
def entries (c : Config) : List (String × Toml) :=
  c.lines.map fun l => (l.key, l.value)

/-- **The written text is a document** with the entries of the configuration. -/
theorem parse?_toToml (c : Config) : Toml.parse? c.toToml = some c.entries := by
  rw [toToml_eq]
  exact parse?_lines (fun _ => isLegible_of_mem_lines) c.nodup_lines

/-- **The file to log to** has an entry exactly if there is one. -/
theorem find?_logFile (c : Config) :
    Toml.find? logFileField c.entries = c.logFile.map fun p => .string p.text := by
  unfold entries lines
  cases c.logFile with
  | none => rfl
  | some p => rfl

theorem find?_level (c : Config) : Toml.find? levelField c.entries = some (.string c.level.name) :=
  rfl

theorem find?_verbose (c : Config) : Toml.find? verboseField c.entries = some (.bool c.verbose) := by
  unfold entries lines
  cases c.logFile with
  | none => rfl
  | some p => rfl

theorem ofEntries?_entries (c : Config) : ofEntries? c.entries = some c := by
  have hlevel : Log.Level.ofToml? (.string c.level.name) = some c.level :=
    Log.Level.ofName?_name c.level
  have hlogFile : orDefault default.logFile (fun v => v.text?.map fun s => some ⟨s⟩)
      (c.logFile.map fun p => Toml.string p.text) = some c.logFile := by
    cases c.logFile <;> rfl
  rw [ofEntries?, find?_level, find?_logFile, find?_verbose, orDefault, hlevel, hlogFile]
  rfl

/-- **The text is read back.** -/
theorem ofToml?_toToml (c : Config) : ofToml? c.toToml = some c := by
  rw [ofToml?, parse?_toToml, Option.bind_some, ofEntries?_entries]

/-! ### The file -/

/-- **A configuration is read back from its file**, whatever the path of the file to log to holds. It can
be written wherever a file can be, the file is a document with the entries of the configuration, and it
has an entry for the file to log to exactly if there is such a file. -/
theorem load_of_save {t : FileTree} {p : Path} (h : t.IsWritable p) (c : Config) :
    ∃ t', save t p c = .ok t' ∧ load t' p = .ok c ∧
      ∃ text es, t'.read p = .ok (Encoding.Utf8.encode text) ∧ Toml.parse? text = some es ∧
        Toml.find? logFileField es = c.logFile.map fun q => .string q.text := by
  have hread := h.read_write (Encoding.Utf8.encode c.toToml)
  refine ⟨t.write p (Encoding.Utf8.encode c.toToml), ?_, ?_, c.toToml, c.entries, hread, c.parse?_toToml,
    c.find?_logFile⟩
  · rw [save, h.store_eq]
  · rw [load, hread]
    dsimp only
    rw [Encoding.Utf8.decode?_encode]
    dsimp only
    rw [ofToml?_toToml]

/-- A configuration whose path needs escapes and a block, with three of either closing character. -/
def quoted : Config where
  level := .trace
  logFile := some ⟨"\"\"\"\n'''\\\r\t\x00é"⟩
  verbose := true

/-- It takes the place of a file below a directory. -/
theorem load_of_save_quoted :
    (FileTree.directory [("etc", .directory [("b.toml", .file [1])])]).IsWritable ⟨"/etc/./b.toml"⟩ ∧
      ∃ t', save (.directory [("etc", .directory [("b.toml", .file [1])])]) ⟨"/etc/./b.toml"⟩ quoted =
          .ok t' ∧
        load t' ⟨"/etc/./b.toml"⟩ = .ok quoted := by
  have h : (FileTree.directory [("etc", .directory [("b.toml", .file [1])])]).IsWritable
      ⟨"/etc/./b.toml"⟩ := by
    refine ⟨by decide, by decide, [[], "etc".toList, ['.']], "b.toml", [("b.toml", .file [1])], by decide,
      by decide, rfl, ?_⟩
    rintro ds hds
    cases hds
  obtain ⟨t', hsave, hload, -⟩ := load_of_save h quoted
  exact ⟨h, t', hsave, hload⟩

end ArchivalBag.Config

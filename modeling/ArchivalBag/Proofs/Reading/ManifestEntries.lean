import ArchivalBag.Proofs.Manifest
import ArchivalBag.Proofs.Reading.LineGrammar
import ArchivalBag.Proofs.Reading.LineReader
import ArchivalBag.Proofs.Text.ContentLines

/-!
# What a manifest file says

Each content line gives the path of a file below the root its checksum, and the lines are read one
after the other. So the manifest is what is left of the checksums of all lines.

* `outcome_run_pairs`: the reader takes one pair at a time.
* `exists_parseManifest_iff`: when there is a manifest at all; `exists_pairs_of_parseManifest`: which one.
* `parseManifest_lastWins`: what it says then.
-/

namespace ArchivalBag

open Text

/-- The checksum and the path that a line gives. -/
def GivesChecksum (t : List Char) (x : String × String) : Prop :=
  IsManifestLine t x.1.toList x.2.toList

/-- The path below a root, with its checksum. -/
def belowRoot (root : Path) (x : String × String) : Path × String :=
  (resolveEntry root x.2, x.1)

theorem exists_givesChecksum_iff {t : List Char} :
    (∃ x, GivesChecksum t x) ↔ ∃ c p, IsManifestLine t c p := by
  constructor
  · rintro ⟨x, hx⟩
    exact ⟨_, _, hx⟩
  · rintro ⟨c, p, h⟩
    refine ⟨(String.ofList c, String.ofList p), ?_⟩
    rw [GivesChecksum, String.toList_ofList, String.toList_ofList]
    exact h

section Run
variable {file root : Path}

theorem manifestReader_step_of_gives {l : Line} {x : String × String}
    (h : GivesChecksum l.text x) (m : Manifest) :
    ∃ v, (manifestReader file root).step m l =
      .ok (m.insert (belowRoot root x).1 (belowRoot root x).2, v) := by
  have hstep : (manifestReader file root).step m l = _ :=
    manifestReader_step_some (manifestLine?_eq_some_iff.2 h) m
  rw [String.ofList_toList, String.ofList_toList] at hstep
  exact ⟨_, hstep⟩

/-- The checksums of some lines are taken one after the other. -/
theorem outcome_run_pairs {ls : List Line} {pairs : List (String × String)}
    (h : List.Forall₂ GivesChecksum (ls.map Line.text) pairs) (m : Manifest) :
    ((manifestReader file root).run m ls).outcome =
      .ok ((pairs.map (belowRoot root)).foldl (fun m (p, c) => m.insert p c) m) := by
  induction ls generalizing pairs m with
  | nil => cases h; rfl
  | cons l ls ih =>
    cases h with
    | cons hx h =>
      obtain ⟨v, hv⟩ := manifestReader_step_of_gives hx m
      rw [LineReader.outcome_run_cons_of_ok hv, ih h]
      rfl

/-- What the reader does not reject gives checksums. -/
theorem gives_of_run_eq_ok {ls : List Line} {m m' : Manifest}
    (h : ((manifestReader file root).run m ls).outcome = .ok m') :
    ∀ l ∈ ls, ∃ c p, IsManifestLine l.text c p := by
  induction ls generalizing m with
  | nil => simp
  | cons l ls ih =>
    cases hl : manifestLine? l.text with
    | none => rw [LineReader.run_cons_of_error (manifestReader_step_none hl m)] at h; cases h
    | some x =>
      rw [LineReader.outcome_run_cons_of_ok (manifestReader_step_some hl m)] at h
      intro l' hl'
      rcases List.mem_cons.1 hl' with rfl | hl'
      · exact ⟨x.1, x.2, manifestLine?_eq_some_iff.1 hl⟩
      · exact ih h l' hl'

end Run

/-! ### Manifest files -/

section File
variable {file root r : Path} {algorithm : String} (hf : file.NamesManifest algorithm)
  (hr : root.absolute? = some r)

include hf hr

/-- A manifest file leaves the checksums of its lines. -/
theorem parseManifest_of_pairs {lines : List String} {pairs : List (String × String)}
    (h : List.Forall₂ GivesChecksum (lines.filterMap content?) pairs) :
    (parseManifest file lines root).outcome = .ok (.ofList algorithm (pairs.map (belowRoot r))) := by
  rw [← map_text_contentLines] at h
  rw [parseManifest_eq_run hf hr, outcome_run_pairs h]
  rfl

/-- **A manifest file can be read** exactly if each of its content lines is a checksum, a gap, and a
path. -/
theorem exists_parseManifest_iff (lines : List String) :
    (∃ m, (parseManifest file lines root).outcome = .ok m) ↔
      ∀ t ∈ lines.filterMap content?, ∃ c p, IsManifestLine t c p := by
  constructor
  · rintro ⟨m, hm⟩ t ht
    rw [parseManifest_eq_run hf hr] at hm
    rw [← map_text_contentLines] at ht
    obtain ⟨l, hl, rfl⟩ := List.mem_map.1 ht
    exact gives_of_run_eq_ok hm l hl
  · intro h
    obtain ⟨pairs, hp⟩ :=
      exists_forall₂_iff.2 fun t ht => exists_givesChecksum_iff.2 (h t ht)
    exact ⟨_, parseManifest_of_pairs hf hr hp⟩

end File

/-- A manifest file that can be read leaves the checksums of its lines. -/
theorem exists_pairs_of_parseManifest {file root : Path} {lines : List String} {m : Manifest}
    (hm : (parseManifest file lines root).outcome = .ok m) :
    ∃ algorithm r pairs, file.NamesManifest algorithm ∧ root.absolute? = some r ∧
      List.Forall₂ GivesChecksum (lines.filterMap content?) pairs ∧
      m = .ofList algorithm (pairs.map (belowRoot r)) := by
  rcases parseManifest_eq_fail_or file root with ⟨e, -, hfail⟩ | ⟨algorithm, r, hf, hr⟩
  · rw [hfail] at hm
    cases hm
  have hlines := (exists_parseManifest_iff hf hr lines).1 ⟨m, hm⟩
  obtain ⟨pairs, hp⟩ := exists_forall₂_iff.2 fun t ht => exists_givesChecksum_iff.2 (hlines t ht)
  rw [parseManifest_of_pairs hf hr hp] at hm
  exact ⟨algorithm, r, pairs, hf, hr, hp, (Except.ok.inj hm).symm⟩

/-- **What a manifest file says.** It can be read exactly if each content line is a checksum, a gap,
and a path. The manifest then has one entry per path below the absolute root, spelled as in the first
line that names it and with the checksum of the last one. -/
theorem parseManifest_lastWins {file root : Path} {algorithm : String}
    (hf : file.NamesManifest algorithm) (hr : root.isEmpty = false) (lines : List String) :
    ((∃ m, (parseManifest file lines root).outcome = .ok m) ↔
      ∀ t ∈ lines.filterMap content?, ∃ c p, IsManifestLine t c p) ∧
    ∀ m, (parseManifest file lines root).outcome = .ok m →
      ∃ r pairs, root.absolute? = some r ∧
        List.Forall₂ GivesChecksum (lines.filterMap content?) pairs ∧
        m.algorithm = algorithm ∧ m.Records (pairs.map (belowRoot r)) := by
  obtain ⟨r, hr⟩ := Path.exists_absolute? hr
  refine ⟨exists_parseManifest_iff hf hr lines, fun m hm => ?_⟩
  have hlines := (exists_parseManifest_iff hf hr lines).1 ⟨m, hm⟩
  obtain ⟨pairs, hp⟩ :=
    exists_forall₂_iff.2 fun t ht => exists_givesChecksum_iff.2 (hlines t ht)
  rw [parseManifest_of_pairs hf hr hp] at hm
  obtain rfl := Except.ok.inj hm
  exact ⟨r, pairs, hr, hp, Manifest.algorithm_ofList _ _, Manifest.records_ofList _ _⟩

/-- Two spellings of one path. -/
theorem parseManifest_lastWins_spellings :
    Path.NamesManifest ⟨"/bag/manifest-md5.txt"⟩ "md5" ∧ Path.isEmpty ⟨"/bag"⟩ = false ∧
      ∃ m, (parseManifest ⟨"/bag/manifest-md5.txt"⟩ ["a data//x", "", "b  y ", "c /data/x\r"]
          ⟨"/bag"⟩).outcome = .ok m ∧
        m.entries = [(⟨"/bag/data//x"⟩, "c"), (⟨"/bag/y "⟩, "b")] ∧
        ∃ r pairs, Path.absolute? ⟨"/bag"⟩ = some r ∧
          List.Forall₂ GivesChecksum
            (["a data//x", "", "b  y ", "c /data/x\r"].filterMap content?) pairs ∧
          m.algorithm = "md5" ∧ m.Records (pairs.map (belowRoot r)) := by
  have hn : Path.NamesManifest ⟨"/bag/manifest-md5.txt"⟩ "md5" := ⟨"manifest-md5.txt", rfl, rfl⟩
  have hm : (parseManifest ⟨"/bag/manifest-md5.txt"⟩ ["a data//x", "", "b  y ", "c /data/x\r"]
      ⟨"/bag"⟩).outcome =
      .ok (.ofList "md5" [(⟨"/bag/data//x"⟩, "a"), (⟨"/bag/y "⟩, "b"), (⟨"/bag/data/x"⟩, "c")]) :=
    rfl
  exact ⟨hn, rfl, _, hm, rfl, (parseManifest_lastWins hn rfl _).2 _ hm⟩

end ArchivalBag

import ArchivalBag.Proofs.Path.Lexical
import ArchivalBag.Proofs.Reading.Discovery

/-!
# Where the entries of a manifest lead

The path of an entry is the text of its line behind the root, and nothing but slashes is taken off the
front of the text. So a text with `..` may lead out of the root: it stays there exactly if it enters
again the names of the root that it takes back.

* `IsEntryPath`: the path of an entry, and when it stays in the root.
* `entryPaths_staysIn_iff`: all entries of all manifests are such paths.
* `exists_entry_outside`: one of them leads out of the root.
-/

namespace ArchivalBag

open Text FileTree

/-! ### The path of an entry -/

theorem head?_dropWhile_slash (cs : List Char) :
    (String.ofList (cs.dropWhile (· == '/'))).toList.head? ≠ some '/' := by
  rw [String.toList_ofList]
  intro h
  have hnot := List.head?_dropWhile_not (· == '/') cs
  rw [h] at hnot
  exact absurd hnot (by decide)

/-- Slashes at the front of a text are no steps. -/
theorem steps_dropWhile_slash (cs : List Char) :
    Path.steps ⟨String.ofList (cs.dropWhile (· == '/'))⟩ = Path.steps ⟨String.ofList cs⟩ := by
  unfold Path.steps
  rw [String.toList_ofList, String.toList_ofList]
  induction cs with
  | nil => rfl
  | cons c cs ih =>
    by_cases hc : c = '/'
    · subst hc
      rw [List.dropWhile_cons_of_pos (by decide), ih, Path.parts_slash,
        List.filter_cons_of_neg (by decide)]
    · rw [List.dropWhile_cons_of_neg (by simpa using hc)]

theorem innerComponents_dropWhile_slash (x : String) :
    Path.innerComponents ⟨String.ofList (x.toList.dropWhile (· == '/'))⟩ =
      Path.innerComponents ⟨x⟩ := by
  rw [Path.innerComponents_eq, Path.innerComponents_eq, steps_dropWhile_slash, String.ofList_toList]

/-- The path of an entry with the text `x`, and when it stays in the root. -/
structure IsEntryPath (r : Path) (x : String) (p : Path) : Prop where
  eq : p = resolveEntry r x
  /-- What is taken back of the root has to be entered again. -/
  staysIn_iff : p.StaysIn r ↔
    (names r).drop ((names r).length - (Path.turns ⟨x⟩).back) <+: (Path.turns ⟨x⟩).entered.reverse
  /-- Without `..` the path stays in the root. -/
  staysIn_of_notMem : .parent ∉ Path.innerComponents ⟨x⟩ → p.StaysIn r

/-- **The path of an entry** stays in the root exactly if its text comes back. -/
theorem isEntryPath_resolveEntry {r : Path} (hr : r.isAbsolute = true) (hp : .parent ∉ r.components)
    (x : String) : IsEntryPath r x (resolveEntry r x) := by
  have hn := head?_dropWhile_slash x.toList
  have hinner := innerComponents_dropWhile_slash x
  have hturns : Path.turns ⟨String.ofList (x.toList.dropWhile (· == '/'))⟩ = Path.turns ⟨x⟩ := by
    rw [Path.turns, Path.turns, hinner]
  refine ⟨rfl, ?_, fun h => ?_⟩
  · rw [← hturns]
    exact Path.staysIn_join_iff hr hp hn
  · exact Path.staysIn_join hr hp hn (by rw [hinner]; exact h)

/-! ### The entries of manifests -/

/-- The paths of a manifest are those of its lines. -/
theorem exists_line_of_mem_paths {file root r : Path} {lines : List String} {m : Manifest}
    (hm : (parseManifest file lines root).outcome = .ok m) (hr : root.absolute? = some r) {p : Path}
    (hp : p ∈ m.paths) :
    ∃ t ∈ lines.filterMap content?, ∃ x, GivesChecksum t x ∧ p = resolveEntry r x.2 := by
  obtain ⟨a, r', pairs, -, hr', hpairs, rfl⟩ := exists_pairs_of_parseManifest hm
  rw [hr] at hr'
  obtain rfl := Option.some.inj hr'
  obtain ⟨e, he, rfl⟩ := List.mem_map.1 hp
  obtain ⟨y, hy, hye⟩ := (Manifest.records_ofList a _).exists_given e he
  obtain ⟨x, hx, rfl⟩ := List.mem_map.1 hy
  obtain ⟨t, ht, htx⟩ := exists_mem_of_forall₂ hpairs hx
  exact ⟨t, ht, x, htx, hye⟩

/-- A bag at an absolute root has this root, and its manifests are read from files with it. -/
theorem root_and_readManifest_of_readBag {t : FileTree} {root r : Path} {b : Bag}
    (hr : root.absolute? = some r) (h : (readBag t root).outcome = .ok b) :
    b.root = r ∧ ∀ k, ∀ m ∈ b.manifests k, ∃ e p, (readManifest t e p r).outcome = .ok m := by
  rw [outcome_readBag_of_absolute? hr] at h
  obtain ⟨e, files, ms, hroot, -, hms, hpayload, htag⟩ := exists_manifests_of_assemble h
  refine ⟨hroot, fun k m hm => ?_⟩
  have hmem : (k, m) ∈ ms := by
    rw [← mem_ofKind, ← (sortManifests_perm _).mem_iff]
    cases k with
    | payload => rw [← hpayload]; exact hm
    | tag => rw [← htag]; exact hm
  obtain ⟨p, -, hread, -⟩ := exists_mem_of_forall₂ (readManifests_eq_ok_iff.1 hms) hmem
  exact ⟨e, p, hread⟩

/-- **Where the entries of manifests lead.** Below a root without `..` in its absolute form, each path of
a manifest that was read is that of the text in a line, and it stays in the root exactly if the text
enters again what it takes back; the same is true of all manifests of a bag and its root. -/
theorem entryPaths_staysIn_iff {root r : Path} (hr : root.absolute? = some r)
    (hp : .parent ∉ r.components) :
    (∀ (file : Path) (lines : List String) (m : Manifest),
      (parseManifest file lines root).outcome = .ok m → ∀ p ∈ m.paths,
        ∃ t ∈ lines.filterMap content?, ∃ x, GivesChecksum t x ∧ IsEntryPath r x.2 p) ∧
    ∀ (t : FileTree) (b : Bag), (readBag t root).outcome = .ok b →
      b.root = r ∧ ∀ k, ∀ m ∈ b.manifests k, ∀ p ∈ m.paths, ∃ x, IsEntryPath r x p := by
  have habs : r.isAbsolute = true := Path.isAbsolute_absolute? hr
  constructor
  · intro file lines m hm p hpm
    obtain ⟨t, ht, x, hx, rfl⟩ := exists_line_of_mem_paths hm hr hpm
    exact ⟨t, ht, x, hx, isEntryPath_resolveEntry habs hp x.2⟩
  · intro t b hb
    obtain ⟨hroot, hreads⟩ := root_and_readManifest_of_readBag hr hb
    refine ⟨hroot, fun k m hm p hpm => ?_⟩
    obtain ⟨e, file, hread⟩ := hreads k m hm
    obtain ⟨text, -, hparse⟩ := readManifest_eq_ok_iff.1 hread
    obtain ⟨t, -, x, -, rfl⟩ := exists_line_of_mem_paths hparse (Path.absolute?_absolute? hr) hpm
    exact ⟨x.2, isEntryPath_resolveEntry habs hp x.2⟩

/-- A bag with one manifest, whose entry takes back the name of the root and enters it again. -/
def returningTree : FileTree :=
  .directory [("bag", .directory
    [("bagit.txt", .file (Encoding.Utf8.encode
        "BagIt-Version: 1.0\nTag-File-Character-Encoding: UTF-8\n")),
      ("manifest-md5.txt", .file (Encoding.Utf8.encode "abc ../bag/data/x\n"))])]

/-- The entry of its manifest stays in the root. -/
theorem entryPaths_staysIn_iff_returning :
    Path.absolute? ⟨"/bag"⟩ = some ⟨"/bag"⟩ ∧ .parent ∉ Path.components ⟨"/bag"⟩ ∧
      Path.StaysIn ⟨"/bag/../bag/data/x"⟩ ⟨"/bag"⟩ ∧
      (∃ m, (parseManifest ⟨"/bag/manifest-md5.txt"⟩ ["abc ../bag/data/x"] ⟨"/bag"⟩).outcome = .ok m ∧
        m.paths = [⟨"/bag/../bag/data/x"⟩] ∧
        ∀ p ∈ m.paths, ∃ t ∈ ["abc ../bag/data/x"].filterMap content?, ∃ x, GivesChecksum t x ∧
          IsEntryPath ⟨"/bag"⟩ x.2 p) ∧
      ∃ b, (readBag returningTree ⟨"/bag"⟩).outcome = .ok b ∧ b.root = ⟨"/bag"⟩ ∧
        ∀ k, ∀ m ∈ b.manifests k, ∀ p ∈ m.paths, ∃ x, IsEntryPath ⟨"/bag"⟩ x p := by
  have hm : (parseManifest ⟨"/bag/manifest-md5.txt"⟩ ["abc ../bag/data/x"] ⟨"/bag"⟩).outcome =
      .ok (.ofList "md5" [(⟨"/bag/../bag/data/x"⟩, "abc")]) := rfl
  have hr : Path.absolute? ⟨"/bag"⟩ = some ⟨"/bag"⟩ := rfl
  have hfiles : manifestFiles returningTree ⟨"/bag"⟩ = .ok [⟨"/bag/manifest-md5.txt"⟩] :=
    congrArg Except.ok (List.mergeSort_singleton _)
  obtain ⟨b, hmanifests, he⟩ : ∃ b, (addManifests returningTree ⟨"/bag"⟩
      ((Bag.new ⟨"/bag"⟩).withDeclaration ⟨1, 0⟩ "UTF-8")).outcome = .ok b ∧
        TextEncoding.ofLabel? b.encoding = some .utf8 :=
    ⟨_, (addManifests_eq_ok_iff (e := .utf8) rfl).2 ⟨_, hfiles, _, rfl, rfl⟩, rfl⟩
  have hmetadata : (addMetadata returningTree ⟨"/bag"⟩ b).outcome = .ok (b.withMetadata .empty) :=
    (addMetadata_eq_ok_iff he).2 ⟨_, rfl, rfl⟩
  have hb : (readBag returningTree ⟨"/bag"⟩).outcome = .ok (b.withMetadata .empty) := by
    rw [outcome_readBag_of_absolute? hr]
    exact assemble_eq_ok_iff.2 ⟨rfl, _, rfl, _, hmanifests, _, hmetadata, rfl⟩
  have hp : .parent ∉ Path.components ⟨"/bag"⟩ := by decide
  obtain ⟨hlines, hbags⟩ := entryPaths_staysIn_iff hr hp
  exact ⟨hr, hp, by decide, ⟨_, hm, rfl, hlines _ _ _ hm⟩, _, hb, hbags _ _ hb⟩

/-- **An entry leads out of the root**: its text takes back the name of the root and does not enter it
again. -/
theorem exists_entry_outside :
    ∃ m, (parseManifest ⟨"/bag/manifest-md5.txt"⟩ ["abc /../evil"] ⟨"/bag"⟩).outcome = .ok m ∧
      Path.absolute? ⟨"/bag"⟩ = some ⟨"/bag"⟩ ∧ .parent ∉ Path.components ⟨"/bag"⟩ ∧
      ∃ p ∈ m.paths, ¬ p.StaysIn ⟨"/bag"⟩ := by
  have hm : (parseManifest ⟨"/bag/manifest-md5.txt"⟩ ["abc /../evil"] ⟨"/bag"⟩).outcome =
      .ok (.ofList "md5" [(⟨"/bag/../evil"⟩, "abc")]) := rfl
  exact ⟨_, hm, rfl, by decide, ⟨"/bag/../evil"⟩, List.mem_singleton.2 rfl, by decide⟩

end ArchivalBag

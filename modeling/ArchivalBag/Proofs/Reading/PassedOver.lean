import ArchivalBag.Proofs.Reading.Discovery

/-!
# Manifests that a search passes over

A name with the extension that is searched for may tell an algorithm and still not be found, since the
search wants it on one line and the algorithm may hold a line feed. Such a file is passed over without
an error, although it would be read under its name; so is a file whose path is too long. All others are
found, and each gives the bag the manifest that is read from it.

* `ReadsAs.isCandidate_iff`: which of the names that tell an algorithm are found.
* `addManifests_covers_iff`: which of the files so named give the bag a manifest.
* `exists_manifest_passed_over`: a line feed hides a manifest.
-/

namespace ArchivalBag

open FileTree Encoding Manifest

namespace Manifest

theorem lineFeed_mem_fileName_iff {k : Kind} {a : String} :
    '\n' ∈ (fileName k a).toList ↔ '\n' ∈ a.toList := by
  have hfront : '\n' ∉ k.front.toList := by cases k <;> decide
  have hname : '\n' ∉ nameFront := by decide
  have hext : '\n' ∉ listedExtension := by decide
  rw [toList_fileName, List.mem_append, List.mem_append, List.mem_append]
  simp only [hfront, hname, hext, false_or, or_false]

/-- **A name that tells an algorithm is found** if it is on one line. -/
theorem ReadsAs.isCandidate_iff {n s a x : String} {k : Kind} (h : ReadsAs n k a x)
    (hn : n = s ++ ".txt") : isCandidate n = true ↔ '\n' ∉ n.toList := by
  rw [h.eq_fileName hn, isCandidate_fileName_iff, lineFeed_mem_fileName_iff]

end Manifest

variable {t : FileTree} {dir : Path} {es : List (String × FileTree)} {b b' : Bag}
  {n s a : String} {bytes : List UInt8}

/-- **Which manifests a bag gets.** Let a directory hold a file whose name ends with the extension that
is searched for and tells an algorithm. Once the directory has been searched, the bag has a manifest by
this algorithm among those of the kind that the name tells, if and only if there is no line feed in the
name and the path of the file is not too long; and it is the one that is read from this file. -/
theorem addManifests_covers_iff (ht : t.Legal) (hb : (addManifests t dir b).outcome = .ok b')
    (hes : t.list dir = .ok es) (hfile : (n, .file bytes) ∈ es) (hn : n = s ++ ".txt")
    (ha : manifestAlgorithm n = .ok a) :
    (isCandidate n = true ↔ '\n' ∉ n.toList) ∧
    ((∃ m ∈ b'.manifests (Kind.ofName n), m.algorithm = a) ↔
      '\n' ∉ n.toList ∧ (dir.join n).text.utf8ByteSize ≤ maxPathLength) ∧
    ∀ m ∈ b'.manifests (Kind.ofName n), m.algorithm = a →
      ∃ e, TextEncoding.ofLabel? b.encoding = some e ∧
        (readManifest t e (dir.join n) b.root).outcome = .ok m := by
  obtain ⟨k, x, hread⟩ := manifestAlgorithm_eq_ok_iff.1 ha
  have hcand := hread.isCandidate_iff hn
  have hname : n = fileName (Kind.ofName n) a := by rw [hread.ofName_eq, ← hread.eq_fileName hn]
  obtain ⟨e, he⟩ := exists_label_of_addManifests hb
  obtain ⟨files, hfiles, ms, hms, rfl⟩ := (addManifests_eq_ok_iff he).1 hb
  have hlists := ht.lists hes
  have hbag := b.hasManifestsOf_withManifests (areManifestsOf_of_readManifests hlists hfiles hms)
    hlists.legal.nodup
  refine ⟨hcand, ?_, fun m hm hma => ⟨e, he, ?_⟩⟩
  · rw [hbag.exists_iff, ← hcand]
    constructor
    · intro hholds
      rw [hname]
      exact ⟨hholds.isCandidate, hholds.short⟩
    · rintro ⟨hc, hlen⟩
      rw [hname] at hfile hc hlen
      exact ⟨⟨bytes, hfile⟩, hc, hlen⟩
  · rw [hname, ← hma]
    exact hbag.read _ m hm

/-! ### A line feed in a name -/

/-- A directory with two files that are read alike, one of them with a line feed in its name. -/
def brokenNameTree : FileTree :=
  .directory [("bag", .directory
    [("manifest-a\nb.txt", .file (Utf8.encode "1 x\n")), ("manifest-md5.txt", .file (Utf8.encode "2 x\n"))])]

theorem legal_brokenNameTree : brokenNameTree.Legal := by
  decide

theorem addManifests_brokenNameTree :
    (addManifests brokenNameTree ⟨"/bag"⟩ (.new ⟨"/bag"⟩)).outcome =
      .ok ((Bag.new ⟨"/bag"⟩).withManifests [.ofList "md5" [(⟨"/bag/x"⟩, "2")]] []) := by
  have hfiles : manifestFiles brokenNameTree ⟨"/bag"⟩ = .ok [⟨"/bag/manifest-md5.txt"⟩] :=
    congrArg Except.ok (List.mergeSort_singleton _)
  exact (addManifests_eq_ok_iff (e := .utf8) rfl).2 ⟨_, hfiles, _, rfl, rfl⟩

/-- One of the two files gives the bag a manifest, and the other one does not. -/
theorem addManifests_covers_iff_brokenName :
    ∃ b', brokenNameTree.Legal ∧
      (addManifests brokenNameTree ⟨"/bag"⟩ (.new ⟨"/bag"⟩)).outcome = .ok b' ∧
      (manifestAlgorithm "manifest-md5.txt" = .ok "md5" ∧
        ∃ m ∈ b'.manifests .payload, m.algorithm = "md5") ∧
      manifestAlgorithm "manifest-a\nb.txt" = .ok "a\nb" ∧
        ¬ ∃ m ∈ b'.manifests .payload, m.algorithm = "a\nb" := by
  have hmd5 := addManifests_covers_iff (n := "manifest-md5.txt") (s := "manifest-md5") (a := "md5")
    legal_brokenNameTree addManifests_brokenNameTree rfl (.tail _ (.head _)) rfl rfl
  have hbroken := addManifests_covers_iff (n := "manifest-a\nb.txt") (s := "manifest-a\nb") (a := "a\nb")
    legal_brokenNameTree addManifests_brokenNameTree rfl (.head _) rfl rfl
  refine ⟨_, legal_brokenNameTree, addManifests_brokenNameTree, ⟨rfl, hmd5.2.1.2 ⟨by decide, by decide⟩⟩,
    rfl, fun h => ?_⟩
  exact absurd (hbroken.2.1.1 h).1 (by decide)

/-- **A line feed hides a manifest**: its file can be read and its path is not too long, and still the
bag gets no manifest by the algorithm that its name tells. -/
theorem exists_manifest_passed_over :
    ∃ t dir es b b' n s a bytes m, t.Legal ∧ t.list dir = .ok es ∧ (n, FileTree.file bytes) ∈ es ∧
      n = s ++ ".txt" ∧ manifestAlgorithm n = .ok a ∧
      (dir.join n).text.utf8ByteSize ≤ maxPathLength ∧
      (readManifest t .utf8 (dir.join n) b.root).outcome = .ok m ∧
      (addManifests t dir b).outcome = .ok b' ∧ ∀ m ∈ b'.manifests (Kind.ofName n), m.algorithm ≠ a := by
  refine ⟨brokenNameTree, ⟨"/bag"⟩, _, .new ⟨"/bag"⟩, _, "manifest-a\nb.txt", "manifest-a\nb", "a\nb", _,
    .ofList "a\nb" [(⟨"/bag/x"⟩, "1")], legal_brokenNameTree, rfl, .head _, rfl, rfl, by decide, rfl,
    addManifests_brokenNameTree, fun m hm => ?_⟩
  have hmd5 : m ∈ sortManifests [.ofList "md5" [(⟨"/bag/x"⟩, "2")]] := hm
  rw [(sortManifests_perm _).mem_iff, List.mem_singleton] at hmd5
  rw [hmd5]
  decide

end ArchivalBag

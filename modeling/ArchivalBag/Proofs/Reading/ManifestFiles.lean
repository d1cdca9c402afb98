import ArchivalBag.Proofs.FileTree
import ArchivalBag.Reading.BagFiles
import Mathlib.Data.List.Nodup
import Mathlib.Data.List.Perm.Basic

/-!
# The search for manifests

A search of a directory finds the entries whose names are those of manifests, and it lists their paths
in order. The names of entries differ, so do their paths, and there is one such order only: in which
order the directory lists its entries makes no difference.

* `manifestFiles_eq`: the entries that are found.
* `sortPaths_eq_of_perm`: paths are sorted in one way only.
* `manifestFiles_congr`: directories in which the same names lead to files give the same files.
-/

namespace ArchivalBag

open FileTree

theorem sortPaths_perm (ps : List Path) : (sortPaths ps).Perm ps :=
  List.mergeSort_perm ps _

/-! ### The entries that are found -/

/-- A directory that can be searched can be listed. -/
theorem exists_list_of_manifestFiles {t : FileTree} {dir : Path} {files : List Path}
    (h : manifestFiles t dir = .ok files) : ∃ es, t.list dir = .ok es := by
  unfold manifestFiles at h
  cases hl : t.list dir with
  | error f => rw [hl] at h; cases h
  | ok es => exact ⟨es, rfl⟩

/-- The entry is a file that is taken for a manifest, and its path is not too long. -/
def isManifestEntry (dir : Path) (e : String × FileTree) : Bool :=
  match e.2 with
  | .file _ => Manifest.isCandidate e.1 && decide ((dir.join e.1).text.utf8ByteSize ≤ maxPathLength)
  | .directory _ => false

theorem isManifestEntry_iff {dir : Path} {e : String × FileTree} :
    isManifestEntry dir e = true ↔ (∃ b, e.2 = .file b) ∧ Manifest.isCandidate e.1 = true ∧
      (dir.join e.1).text.utf8ByteSize ≤ maxPathLength := by
  obtain ⟨n, u⟩ := e
  cases u with
  | file b => simp [isManifestEntry]
  | directory ds => simp [isManifestEntry]

section Listed
variable {t : FileTree} {dir : Path} {es : List (String × FileTree)} (h : t.Lists dir es)

include h

/-- The search asks the tree for what its entries tell. -/
theorem isManifestEntry_eq {e : String × FileTree} (he : e ∈ es) :
    isManifestEntry dir e = (Manifest.isCandidate e.1 && t.isFile (dir.join e.1)) := by
  have hn := h.legal.isName e he
  have hu : lookup e.1 es = some e.2 := lookup_of_mem h.legal.nodup he
  rw [Bool.eq_iff_iff, Bool.and_eq_true, isManifestEntry_iff, h.isFile_join_iff hn]
  constructor
  · rintro ⟨⟨b, hb⟩, hc, hlen⟩
    have hmem : (e.1, FileTree.file b) ∈ es := by
      rw [← hb]
      exact he
    exact ⟨hc, ⟨b, hmem⟩, hlen⟩
  · rintro ⟨hc, ⟨b, hb⟩, hlen⟩
    rw [lookup_of_mem h.legal.nodup hb] at hu
    exact ⟨⟨b, (Option.some.inj hu).symm⟩, hc, hlen⟩

/-- **The search finds the entries** that are taken for manifests. -/
theorem manifestFiles_eq :
    manifestFiles t dir =
      .ok (sortPaths (((es.filter (isManifestEntry dir)).map Prod.fst).map dir.join)) := by
  have hfound : es.filter (isManifestEntry dir) =
      es.filter fun e => Manifest.isCandidate e.1 && t.isFile (dir.join e.1) :=
    List.filter_congr fun e he => isManifestEntry_eq h he
  rw [manifestFiles, h.list_eq, hfound]
  dsimp only
  rw [List.filter_map, List.filter_map, List.filter_map, List.filter_filter]
  simp only [Function.comp_def, Bool.and_comm]

theorem mem_manifestFiles_iff {files : List Path} (hf : manifestFiles t dir = .ok files) {p : Path} :
    p ∈ files ↔ ∃ e ∈ es, isManifestEntry dir e = true ∧ dir.join e.1 = p := by
  rw [manifestFiles_eq h] at hf
  obtain rfl := Except.ok.inj hf
  rw [(sortPaths_perm _).mem_iff, List.map_map, List.mem_map]
  constructor
  · rintro ⟨e, he, rfl⟩
    obtain ⟨hmem, hentry⟩ := List.mem_filter.1 he
    exact ⟨e, hmem, hentry, rfl⟩
  · rintro ⟨e, hmem, hentry, rfl⟩
    exact ⟨e, List.mem_filter.2 ⟨hmem, hentry⟩, rfl⟩

/-- A path tells the name of its entry. -/
theorem fileName?_join_of_mem {e : String × FileTree} (he : e ∈ es) :
    (dir.join e.1).fileName? = some e.1 :=
  dir.fileName?_join (h.legal.isName e he).isStep (h.legal.isName e he).ne_parent

/-- Different names make different paths. -/
theorem eq_of_same_join {d e : String × FileTree} (hd : d ∈ es) (he : e ∈ es)
    (hs : (dir.join d.1).Same (dir.join e.1)) : d.1 = e.1 := by
  have hcs : (dir.join d.1).components = (dir.join e.1).components := hs
  have hname : (dir.join d.1).fileName? = (dir.join e.1).fileName? := by
    rw [Path.fileName?, Path.fileName?, hcs]
  rw [fileName?_join_of_mem h hd, fileName?_join_of_mem h he] at hname
  exact Option.some.inj hname

end Listed

/-! ### Sorted paths -/

theorem pairwise_sortPaths (ps : List Path) :
    (sortPaths ps).Pairwise fun p q => ¬ q.key < p.key := by
  have htrans : ∀ p q r : Path, (!decide (q.key < p.key)) = true → (!decide (r.key < q.key)) = true →
      (!decide (r.key < p.key)) = true := by
    intro p q r hpq hqr
    rw [Bool.not_eq_true', decide_eq_false_iff_not] at hpq hqr ⊢
    intro hrp
    rcases Std.lt_trichotomy p.key q.key with hlt | heq | hgt
    · exact hqr (List.lt_trans hrp hlt)
    · exact hqr (heq ▸ hrp)
    · exact hpq hgt
  have htotal : ∀ p q : Path,
      ((!decide (q.key < p.key)) || (!decide (p.key < q.key))) = true := by
    intro p q
    rw [Bool.or_eq_true, Bool.not_eq_true', Bool.not_eq_true', decide_eq_false_iff_not,
      decide_eq_false_iff_not]
    by_cases hqp : q.key < p.key
    · exact Or.inr (List.lt_asymm hqp)
    · exact Or.inl hqp
  refine (List.pairwise_mergeSort htrans htotal ps).imp fun hpq => ?_
  rwa [Bool.not_eq_true', decide_eq_false_iff_not] at hpq

/-- **Paths are sorted in one way only**, unless there are two spellings of one path. -/
theorem sortPaths_eq_of_perm {ps qs : List Path} (h : ps.Perm qs)
    (hne : ∀ p ∈ ps, ∀ q ∈ ps, p.Same q → p = q) : sortPaths ps = sortPaths qs := by
  refine List.Perm.eq_of_pairwise (fun p q hp hq hpq hqp => ?_) (pairwise_sortPaths ps)
    (pairwise_sortPaths qs) (((sortPaths_perm ps).trans h).trans (sortPaths_perm qs).symm)
  have hp : p ∈ ps := (sortPaths_perm ps).mem_iff.1 hp
  have hq : q ∈ ps := h.mem_iff.2 ((sortPaths_perm qs).mem_iff.1 hq)
  have hkey : p.key = q.key := by
    rcases Std.lt_trichotomy p.key q.key with hlt | heq | hgt
    · exact absurd hlt hqp
    · exact heq
    · exact absurd hgt hpq
  exact hne p hp q hq (Path.key_eq_iff.1 hkey)

/-! ### Searches that find the same -/

/-- The names of the entries that are found. -/
theorem mem_manifestNames_iff {t : FileTree} {dir : Path} {es : List (String × FileTree)}
    (h : t.Lists dir es) {n : String} :
    n ∈ (es.filter (isManifestEntry dir)).map Prod.fst ↔
      IsName n ∧ Manifest.isCandidate n = true ∧ t.isFile (dir.join n) = true := by
  rw [List.mem_map]
  constructor
  · rintro ⟨e, he, rfl⟩
    obtain ⟨hmem, hentry⟩ := List.mem_filter.1 he
    rw [isManifestEntry_eq h hmem, Bool.and_eq_true] at hentry
    exact ⟨h.legal.isName e hmem, hentry⟩
  · rintro ⟨hn, hc, hf⟩
    obtain ⟨⟨b, hb⟩, -⟩ := (h.isFile_join_iff hn).1 hf
    refine ⟨(n, .file b), List.mem_filter.2 ⟨hb, ?_⟩, rfl⟩
    rw [isManifestEntry_eq h hb, hc, hf]
    rfl

/-- A file that is found has a name. -/
theorem exists_name_of_mem_manifestFiles {t : FileTree} {dir : Path} {es : List (String × FileTree)}
    (h : t.Lists dir es) {files : List Path} (hf : manifestFiles t dir = .ok files) {p : Path}
    (hp : p ∈ files) :
    ∃ n, IsName n ∧ Manifest.isCandidate n = true ∧ t.isFile (dir.join n) = true ∧ dir.join n = p := by
  obtain ⟨e, hmem, hentry, rfl⟩ := (mem_manifestFiles_iff h hf).1 hp
  have hname := List.mem_map_of_mem (f := Prod.fst) (List.mem_filter.2 ⟨hmem, hentry⟩)
  obtain ⟨hn, hc, hfile⟩ := (mem_manifestNames_iff h).1 hname
  exact ⟨e.1, hn, hc, hfile, rfl⟩

/-- **Searches find the same** if the same names of manifests lead to files. Neither the other entries
nor the order of entries make a difference. -/
theorem manifestFiles_congr {t t' : FileTree} {dir : Path} {es es' : List (String × FileTree)}
    (h : t.Lists dir es) (h' : t'.Lists dir es')
    (hfile : ∀ n, IsName n → Manifest.isCandidate n = true →
      t.isFile (dir.join n) = t'.isFile (dir.join n)) :
    manifestFiles t dir = manifestFiles t' dir := by
  have hperm : ((es.filter (isManifestEntry dir)).map Prod.fst).Perm
      ((es'.filter (isManifestEntry dir)).map Prod.fst) := by
    refine (List.perm_ext_iff_of_nodup ((List.filter_sublist.map Prod.fst).nodup h.legal.nodup)
      ((List.filter_sublist.map Prod.fst).nodup h'.legal.nodup)).2 fun n => ?_
    rw [mem_manifestNames_iff h, mem_manifestNames_iff h']
    exact and_congr_right fun hn => and_congr_right fun hc => by rw [hfile n hn hc]
  rw [manifestFiles_eq h, manifestFiles_eq h']
  congr 1
  refine sortPaths_eq_of_perm (hperm.map dir.join) fun p hp q hq hs => ?_
  obtain ⟨n, hn, rfl⟩ := List.mem_map.1 hp
  obtain ⟨n', hn', rfl⟩ := List.mem_map.1 hq
  obtain ⟨x, hx, rfl⟩ := List.mem_map.1 hn
  obtain ⟨x', hx', rfl⟩ := List.mem_map.1 hn'
  rw [eq_of_same_join h (List.mem_filter.1 hx).1 (List.mem_filter.1 hx').1 hs]

end ArchivalBag

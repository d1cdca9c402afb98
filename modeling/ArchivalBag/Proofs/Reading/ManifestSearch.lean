import ArchivalBag.Proofs.Manifest.Sorted
import ArchivalBag.Proofs.Reading.ManifestFiles
import ArchivalBag.Proofs.Reading.StoredFiles

/-!
# The manifests of a directory

A search of the directory finds the manifests of a draft in the order of their paths, and they are read
in this order. Sorted by their algorithms, those of one kind are the manifests that were drafted.

* `exists_manifestFiles_eq`: the search finds the files of the manifests.
* `outcome_readManifests`: they are read one after the other.
* `areReadAs_sortManifests`: they are the manifests that were drafted.
-/

namespace ArchivalBag

open Text Encoding FileTree

/-- The manifest that a draft amounts to. -/
def ManifestDraft.manifest (m : ManifestDraft) (r : Path) : Manifest :=
  .ofList m.algorithm (m.pairs.map (belowRoot r))

theorem ManifestDraft.isReadAs_manifest (m : ManifestDraft) (r : Path) :
    m.IsReadAs r (m.manifest r) :=
  ⟨Manifest.algorithm_ofList _ _, Manifest.records_ofList _ _⟩

/-! ### The search -/

section Stored
variable {t : FileTree} {root r : Path} {es : List (String × FileTree)} {d : BagDraft}
  (h : t.DirectoryAt root r es) (hw : d.IsWritable) (hs : d.StoredIn r es)

theorem mem_fileNames_of_mem_manifests {m : ManifestDraft} (hm : m ∈ d.manifests) :
    m.fileName ∈ d.fileNames := by
  unfold BagDraft.fileNames
  simp only [List.mem_cons]
  exact Or.inr (Or.inr (Or.inr (List.mem_map_of_mem hm)))

include h hw hs

/-- The entries that are taken for manifests are those of the draft. -/
theorem isManifestEntry_iff_exists {e : String × FileTree} (he : e ∈ es) :
    isManifestEntry r e = true ↔ ∃ m ∈ d.manifests, e.1 = m.fileName := by
  rw [isManifestEntry_iff]
  constructor
  · rintro ⟨⟨b, hb⟩, hc, -⟩
    exact hs.isManifest e.1 b (by rw [← hb]; exact he) hc
  · rintro ⟨m, hm, hn⟩
    have hu : lookup e.1 es = some e.2 := lookup_of_mem h.legal.nodup he
    rw [hn, lookup_of_mem h.legal.nodup (hs.manifest m hm)] at hu
    rw [hn]
    exact ⟨⟨_, (Option.some.inj hu).symm⟩, Manifest.isCandidate_fileName (hw.isAlgorithm m hm) m.kind,
      hs.short _ (mem_fileNames_of_mem_manifests hm)⟩

theorem perm_manifestNames :
    ((es.filter (isManifestEntry r)).map Prod.fst).Perm (d.manifests.map ManifestDraft.fileName) := by
  have hnodup : ((es.filter (isManifestEntry r)).map Prod.fst).Nodup :=
    (List.filter_sublist.map Prod.fst).nodup h.legal.nodup
  have hnames := ManifestDraft.nodup_fileName_iff.2 hw.nodup
  refine (List.perm_ext_iff_of_nodup hnodup hnames).2 fun n => ⟨fun hn => ?_, fun hn => ?_⟩
  · obtain ⟨e, he, rfl⟩ := List.mem_map.1 hn
    obtain ⟨hmem, hc⟩ := List.mem_filter.1 he
    obtain ⟨m, hm, hnm⟩ := (isManifestEntry_iff_exists h hw hs hmem).1 hc
    exact List.mem_map.2 ⟨m, hm, hnm.symm⟩
  · obtain ⟨m, hm, rfl⟩ := List.mem_map.1 hn
    have hmem := hs.manifest m hm
    have hc := (isManifestEntry_iff_exists h hw hs hmem).2 ⟨m, hm, rfl⟩
    exact List.mem_map_of_mem (List.mem_filter.2 ⟨hmem, hc⟩)

/-- **The search finds the manifests**, in some order. -/
theorem exists_manifestFiles_eq :
    ∃ ms : List ManifestDraft, ms.Perm d.manifests ∧
      manifestFiles t r = .ok (ms.map fun m => r.join m.fileName) := by
  have hnames : (d.manifests.map ManifestDraft.fileName).map r.join =
      d.manifests.map fun m => r.join m.fileName := List.map_map
  have hp := (perm_manifestNames h hw hs).map r.join
  rw [hnames] at hp
  obtain ⟨ms, hms, heq⟩ := exists_perm_of_perm_map ((sortPaths_perm _).trans hp)
  exact ⟨ms, hms, by rw [manifestFiles_eq (hs.lists h), heq]⟩

/-- **They are read one after the other.** -/
theorem outcome_readManifests {ms : List ManifestDraft} (hms : ∀ m ∈ ms, m ∈ d.manifests) :
    (readManifests t .utf8 r (ms.map fun m => r.join m.fileName)).outcome =
      .ok (ms.map fun m => (m.kind, m.manifest r)) := by
  induction ms with
  | nil => rfl
  | cons m ms ih =>
    have hm := hms m List.mem_cons_self
    have hmem := hs.manifest m hm
    have hn := mem_fileNames_of_mem_manifests hm
    have hread := outcome_readManifest h (hw.isAlgorithm m hm) (hw.isPair m hm)
      (hw.isUnmarked m hm) hmem (hs.short _ hn)
    have hkind : Manifest.Kind.ofName ((r.join m.fileName).fileName?.getD "") = m.kind := by
      rw [fileName?_stored h hmem]
      exact Manifest.ofName_fileName m.kind m.algorithm
    rw [List.map_cons, readManifests, Reading.outcome_bind_of_ok hread,
      Reading.outcome_bind_of_ok (ih fun m' hm' => hms m' (List.mem_cons_of_mem m hm')), hkind]
    rfl

end Stored

/-! ### Sorting -/

theorem ofKind_map (k : Manifest.Kind) (r : Path) (ms : List ManifestDraft) :
    ofKind k (ms.map fun m => (m.kind, m.manifest r)) =
      (ms.filter fun m => m.kind = k).map fun m => m.manifest r := by
  unfold ofKind
  rw [List.filter_map, List.map_map]
  congr 1

/-- **Sorted by their algorithms, the manifests are those that were drafted.** -/
theorem areReadAs_sortManifests {d : BagDraft} (hw : d.IsWritable) {ms : List ManifestDraft}
    (hms : ms.Perm d.manifests) (k : Manifest.Kind) (r : Path) :
    d.AreReadAs k r (sortManifests (ofKind k (ms.map fun m => (m.kind, m.manifest r)))) := by
  rw [ofKind_map]
  have hfilter := hms.filter fun m => decide (m.kind = k)
  have hnodup : ((ms.filter fun m => m.kind = k).map fun m => m.algorithm).Nodup := by
    rw [((hfilter.map _).nodup_iff)]
    have hn := hw.nodup
    rw [List.nodup_iff_pairwise_ne, List.pairwise_map] at hn ⊢
    refine (hn.filter _).imp_of_mem fun {m n} hm hn' hne heq => hne ?_
    have hmk := of_decide_eq_true (List.mem_filter.1 hm).2
    have hnk := of_decide_eq_true (List.mem_filter.1 hn').2
    rw [hmk, hnk, heq]
  constructor
  · refine pairwise_sortManifests ?_
    rw [List.map_map]
    have hcomp : (Manifest.algorithm ∘ fun m : ManifestDraft => m.manifest r) =
        fun m : ManifestDraft => m.algorithm := by
      funext m
      exact (m.isReadAs_manifest r).1
    rw [hcomp]
    exact hnodup
  · obtain ⟨ds, hds, heq⟩ := exists_perm_of_perm_map (List.mergeSort_perm _ _)
    refine ⟨ds, hds.trans hfilter, ?_⟩
    rw [sortManifests, heq, List.forall₂_map_right_iff, List.forall₂_same]
    exact fun m _ => m.isReadAs_manifest r

end ArchivalBag

import ArchivalBag.Proofs.Encoding.Utf8
import ArchivalBag.Proofs.FileTree.Order
import ArchivalBag.Proofs.Lists
import ArchivalBag.Proofs.Manifest.Name
import ArchivalBag.Proofs.Manifest.Sorted
import ArchivalBag.Proofs.Reading.ManifestFiles
import ArchivalBag.Proofs.Reading.Stages

/-!
# The manifests that a bag gets

A search of a directory gives a bag one manifest for each file that is taken for one, and each is
filed under the kind and the algorithm that its file is named after. The name and the two together tell
each other, so that no two manifests of a kind are by the same algorithm. In which order the directory
lists its entries makes no difference.

* `AreManifestsOf`: manifests that are those of the entries of a directory.
* `HoldsManifest`: a directory holds a file that a manifest is read from.
* `Bag.HasManifestsOf`: the manifests of a bag are those of a directory.
* `addManifests_hasManifestsOf`: so they are once the directory has been searched.
* `exists_unlisted_manifest`: a path that is too long hides a file.
-/

namespace ArchivalBag

open FileTree Encoding Manifest

variable {t t' : FileTree} {e : TextEncoding} {dir root : Path} {es : List (String × FileTree)}

/-! ### The manifests that are read -/

/-- The name of the file of a manifest. -/
def manifestName (x : Kind × Manifest) : String :=
  fileName x.1 x.2.algorithm

/-- Manifests with their kinds, one for each entry of a directory that is taken for a manifest. -/
structure AreManifestsOf (t : FileTree) (e : TextEncoding) (dir root : Path)
    (es : List (String × FileTree)) (ms : List (Kind × Manifest)) : Prop where
  names : (ms.map manifestName).Perm ((es.filter (isManifestEntry dir)).map Prod.fst)
  read : ∀ x ∈ ms, (readManifest t e (dir.join (manifestName x)) root).outcome = .ok x.2

/-- The names of the files are those that their manifests tell. -/
theorem forall₂_manifestName (h : t.Lists dir es) {ns : List String} {ms : List (Kind × Manifest)}
    (hns : ∀ n ∈ ns, ∃ u, (n, u) ∈ es ∧ isCandidate n = true)
    (hms : (readManifests t e root (ns.map dir.join)).outcome = .ok ms) :
    List.Forall₂ (fun n x => n = manifestName x ∧
      (readManifest t e (dir.join n) root).outcome = .ok x.2) ns ms := by
  rw [readManifests_eq_ok_iff, List.forall₂_map_left_iff] at hms
  refine ((List.forall₂_and_left _ _).2 ⟨hns, hms⟩).imp fun n x hx => ?_
  obtain ⟨⟨u, hu, hc⟩, hread, hk⟩ := hx
  refine ⟨?_, hread⟩
  have hname := fileName?_join_of_mem h hu
  dsimp only at hname
  obtain ⟨n', hn', ha⟩ := namesManifest_of_readManifest hread
  rw [hname] at hn' hk
  obtain rfl := Option.some.inj hn'
  rw [Option.getD_some] at hk
  rw [manifestName, hk]
  exact eq_fileName hc ha

/-- **The manifests that are read** are those of the entries. -/
theorem areManifestsOf_of_readManifests (h : t.Lists dir es) {files : List Path}
    {ms : List (Kind × Manifest)} (hfiles : manifestFiles t dir = .ok files)
    (hms : (readManifests t e root files).outcome = .ok ms) : AreManifestsOf t e dir root es ms := by
  rw [manifestFiles_eq h] at hfiles
  obtain rfl := Except.ok.inj hfiles
  obtain ⟨ns, hperm, hns⟩ := exists_perm_of_perm_map (sortPaths_perm _)
  rw [hns] at hms
  have hcand : ∀ n ∈ ns, ∃ u, (n, u) ∈ es ∧ isCandidate n = true := by
    intro n hn
    obtain ⟨x, hx, rfl⟩ := List.mem_map.1 (hperm.mem_iff.1 hn)
    obtain ⟨hmem, hentry⟩ := List.mem_filter.1 hx
    exact ⟨x.2, hmem, (isManifestEntry_iff.1 hentry).2.1⟩
  have hall := forall₂_manifestName h hcand hms
  have hnames : ns = ms.map manifestName := by
    rw [← List.forall₂_eq_eq_eq, List.forall₂_map_right_iff]
    exact hall.imp fun n x hx => hx.1
  refine ⟨hnames ▸ hperm, fun x hx => ?_⟩
  obtain ⟨n, -, rfl, hread⟩ := exists_mem_of_forall₂ hall hx
  exact hread

/-- The directory holds a file that a manifest of this kind and algorithm is read from: a file under
the usual name, which a search takes for a manifest, with a path that is not too long. -/
structure HoldsManifest (dir : Path) (es : List (String × FileTree)) (k : Kind) (algorithm : String) :
    Prop where
  isFile : ∃ bytes, (fileName k algorithm, FileTree.file bytes) ∈ es
  isCandidate : isCandidate (fileName k algorithm) = true
  short : (dir.join (fileName k algorithm)).text.utf8ByteSize ≤ maxPathLength

theorem holdsManifest_iff {k : Kind} {a : String} :
    HoldsManifest dir es k a ↔ fileName k a ∈ (es.filter (isManifestEntry dir)).map Prod.fst := by
  rw [List.mem_map]
  constructor
  · rintro ⟨⟨bytes, hmem⟩, hc, hlen⟩
    exact ⟨_, List.mem_filter.2 ⟨hmem, isManifestEntry_iff.2 ⟨⟨bytes, rfl⟩, hc, hlen⟩⟩, rfl⟩
  · rintro ⟨x, hx, hn⟩
    obtain ⟨hmem, hentry⟩ := List.mem_filter.1 hx
    obtain ⟨⟨bytes, hb⟩, hc, hlen⟩ := isManifestEntry_iff.1 hentry
    obtain ⟨n, u⟩ := x
    obtain rfl : n = fileName k a := hn
    obtain rfl : u = .file bytes := hb
    exact ⟨⟨bytes, hmem⟩, hc, hlen⟩

section Manifests
variable {ms : List (Kind × Manifest)} (h : AreManifestsOf t e dir root es ms)

include h

theorem AreManifestsOf.length_eq : ms.length = (es.filter (isManifestEntry dir)).length := by
  rw [← List.length_map (f := manifestName), h.names.length_eq, List.length_map]

/-- **There is a manifest for each file** that is taken for one. -/
theorem AreManifestsOf.exists_iff {k : Kind} {a : String} :
    (∃ m, (k, m) ∈ ms ∧ m.algorithm = a) ↔ HoldsManifest dir es k a := by
  rw [holdsManifest_iff, ← h.names.mem_iff, List.mem_map]
  constructor
  · rintro ⟨m, hm, rfl⟩
    exact ⟨_, hm, rfl⟩
  · rintro ⟨⟨k', m⟩, hm, hn⟩
    obtain ⟨rfl, ha⟩ := fileName_inj hn
    exact ⟨m, hm, ha⟩

/-- **No two manifests of a kind** are by the same algorithm. -/
theorem AreManifestsOf.nodup_ofKind (hn : (es.map Prod.fst).Nodup) (k : Kind) :
    ((ofKind k ms).map algorithm).Nodup := by
  have hnames : (ms.map manifestName).Nodup :=
    h.names.nodup_iff.2 ((List.filter_sublist.map Prod.fst).nodup hn)
  have hkind : ((ofKind k ms).map algorithm).map (fileName k) =
      (ms.filter fun x => x.1 == k).map manifestName := by
    rw [ofKind, List.map_map, List.map_map]
    refine List.map_congr_left fun x hx => ?_
    have hk : x.1 = k := beq_iff_eq.1 (List.mem_filter.1 hx).2
    rw [manifestName, hk]
    rfl
  refine List.Nodup.of_map (fileName k) ?_
  rw [hkind]
  exact (List.filter_sublist.map manifestName).nodup hnames

end Manifests

/-! ### The manifests of a bag -/

theorem mem_ofKind {k : Kind} {m : Manifest} {ms : List (Kind × Manifest)} :
    m ∈ ofKind k ms ↔ (k, m) ∈ ms := by
  unfold ofKind
  rw [List.mem_map]
  constructor
  · rintro ⟨⟨k', m'⟩, hx, rfl⟩
    obtain ⟨hmem, hk⟩ := List.mem_filter.1 hx
    obtain rfl : k' = k := beq_iff_eq.1 hk
    exact hmem
  · intro hm
    exact ⟨(k, m), List.mem_filter.2 ⟨hm, beq_self_eq_true k⟩, rfl⟩

theorem length_ofKind_add (ms : List (Kind × Manifest)) :
    (ofKind .payload ms).length + (ofKind .tag ms).length = ms.length := by
  have hkinds : (fun x : Kind × Manifest => x.1 == .tag) = fun x => !(x.1 == .payload) := by
    funext x
    cases x.1 <;> rfl
  rw [ofKind, ofKind, List.length_map, List.length_map, hkinds]
  exact (List.length_eq_length_filter_add fun x : Kind × Manifest => x.1 == .payload).symm

theorem of_find?_algorithm {l : List Manifest} {a : String} {m : Manifest}
    (h : (l.find? fun m => m.algorithm == a) = some m) : m ∈ l ∧ m.algorithm = a := by
  have ha := List.find?_some h
  exact ⟨List.mem_of_find?_eq_some h, beq_iff_eq.1 ha⟩

theorem exists_find?_algorithm {l : List Manifest} {a : String} {m : Manifest} (hm : m ∈ l)
    (ha : m.algorithm = a) : ∃ m', (l.find? fun m => m.algorithm == a) = some m' := by
  rw [← Option.isSome_iff_exists, List.find?_isSome]
  exact ⟨m, hm, by rw [ha]; exact beq_self_eq_true a⟩

namespace Bag

/-- The manifests of one kind. -/
def manifests (b : Bag) : Kind → List Manifest
  | .payload => b.payloadManifests
  | .tag => b.tagManifests

/-- The manifest of a kind and an algorithm. -/
def manifest? (b : Bag) : Kind → String → Option Manifest
  | .payload => b.payloadManifest?
  | .tag => b.tagManifest?

theorem manifests_withManifests (b : Bag) (ms : List (Kind × Manifest)) (k : Kind) :
    (b.withManifests (ofKind .payload ms) (ofKind .tag ms)).manifests k =
      sortManifests (ofKind k ms) := by
  cases k <;> rfl

theorem manifest?_eq_find? (b : Bag) (k : Kind) (a : String) :
    b.manifest? k a = (b.manifests k).find? fun m => m.algorithm == a := by
  cases k <;> rfl

/-- **The manifests of a bag are those of a directory**: per kind they are in the byte order of their
algorithms, without repetitions; there is one exactly for each file that is taken for a manifest, and
it is what this file says. -/
structure HasManifestsOf (b : Bag) (t : FileTree) (e : TextEncoding) (dir root : Path)
    (es : List (String × FileTree)) : Prop where
  ascending : ∀ k, (b.manifests k).Pairwise fun m n =>
    Utf8.encode m.algorithm < Utf8.encode n.algorithm
  exists_iff : ∀ k a, (∃ m ∈ b.manifests k, m.algorithm = a) ↔ HoldsManifest dir es k a
  read : ∀ k, ∀ m ∈ b.manifests k,
    (readManifest t e (dir.join (fileName k m.algorithm)) root).outcome = .ok m
  manifest?_eq_some_iff : ∀ k a m, b.manifest? k a = some m ↔ m ∈ b.manifests k ∧ m.algorithm = a
  length_add : b.payloadManifests.length + b.tagManifests.length =
    (es.filter (isManifestEntry dir)).length

theorem hasManifestsOf_withManifests (b : Bag) {ms : List (Kind × Manifest)}
    (h : AreManifestsOf t e dir root es ms) (hn : (es.map Prod.fst).Nodup) :
    (b.withManifests (ofKind .payload ms) (ofKind .tag ms)).HasManifestsOf t e dir root es := by
  have hmem : ∀ k m, m ∈ (b.withManifests (ofKind .payload ms) (ofKind .tag ms)).manifests k ↔
      (k, m) ∈ ms := by
    intro k m
    rw [manifests_withManifests, (sortManifests_perm _).mem_iff, mem_ofKind]
  have hread : ∀ k m, (k, m) ∈ ms →
      (readManifest t e (dir.join (fileName k m.algorithm)) root).outcome = .ok m :=
    fun k m hm => h.read (k, m) hm
  refine ⟨fun k => ?_, fun k a => ?_, fun k m hm => hread k m ((hmem k m).1 hm), fun k a m => ?_, ?_⟩
  · rw [manifests_withManifests]
    exact (pairwise_sortManifests (h.nodup_ofKind hn k)).imp Utf8.encode_lt_encode
  · simp only [hmem]
    exact h.exists_iff
  · rw [manifest?_eq_find?]
    constructor
    · exact of_find?_algorithm
    · rintro ⟨hm, ha⟩
      obtain ⟨m', hf⟩ := exists_find?_algorithm hm ha
      obtain ⟨hm', ha'⟩ := of_find?_algorithm hf
      -- both are what the one file of this kind and algorithm says
      have h₁ := hread k m ((hmem k m).1 hm)
      have h₂ := hread k m' ((hmem k m').1 hm')
      rw [ha', ← ha, h₁] at h₂
      rw [hf, Except.ok.inj h₂]
  · show (sortManifests _).length + (sortManifests _).length = _
    rw [(sortManifests_perm _).length_eq, (sortManifests_perm _).length_eq, length_ofKind_add,
      h.length_eq]

end Bag

/-! ### The order of entries -/

section Order
variable (ht : t.Legal) (h : t.Reordered t')

include ht h

/-- **The search does not depend on the order** in which directories list their entries. -/
theorem manifestFiles_reordered (dir : Path) : manifestFiles t' dir = manifestFiles t dir := by
  rcases h.list_cases ht dir with ⟨f, hu, hu'⟩ | ⟨es, es', hu, hu', -⟩
  · rw [manifestFiles, manifestFiles, hu, hu']
  · exact manifestFiles_congr ((h.legal ht).lists hu') (ht.lists hu)
      fun n _ _ => (h.isFile_eq ht (dir.join n)).symm

theorem addManifests_reordered (dir : Path) (b : Bag) :
    addManifests t' dir b = addManifests t dir b := by
  have hread : ∀ e, ∀ files : List Path, ∀ p ∈ files, readText t' e p = readText t e p :=
    fun e _ p _ => readText_congr (h.read_eq ht p).symm
  unfold addManifests
  rw [manifestFiles_reordered ht h]
  simp only [readManifests_congr (hread _ _)]

end Order

theorem exists_label_of_addManifests {b b' : Bag} (h : (addManifests t dir b).outcome = .ok b') :
    ∃ e, TextEncoding.ofLabel? b.encoding = some e := by
  obtain ⟨e, he, -⟩ := Reading.outcome_bind_eq_ok_iff.1 h
  unfold declaredEncoding at he
  cases hl : TextEncoding.ofLabel? b.encoding with
  | none => rw [hl] at he; cases he
  | some e => exact ⟨e, rfl⟩

/-- **The manifests that a bag gets.** If a search of a directory succeeds, the manifests of the bag
are those of the directory, and whether it does or not, its outcome is the same in whichever order the
directories of the tree list their entries. -/
theorem addManifests_hasManifestsOf (ht : t.Legal) (dir : Path) (b : Bag) :
    (∀ b', (addManifests t dir b).outcome = .ok b' →
      ∃ e es, TextEncoding.ofLabel? b.encoding = some e ∧ t.list dir = .ok es ∧
        b'.HasManifestsOf t e dir b.root es) ∧
    ∀ t', t.Reordered t' →
      manifestFiles t' dir = manifestFiles t dir ∧ addManifests t' dir b = addManifests t dir b := by
  refine ⟨fun b' hb => ?_, fun t' h =>
    ⟨manifestFiles_reordered ht h dir, addManifests_reordered ht h dir b⟩⟩
  obtain ⟨e, he⟩ := exists_label_of_addManifests hb
  obtain ⟨files, hfiles, ms, hms, rfl⟩ := (addManifests_eq_ok_iff he).1 hb
  obtain ⟨es, hes⟩ := exists_list_of_manifestFiles hfiles
  have hlists := ht.lists hes
  exact ⟨e, es, he, hes,
    b.hasManifestsOf_withManifests (areManifestsOf_of_readManifests hlists hfiles hms)
      hlists.legal.nodup⟩

/-- A directory with two manifests, whose names are in the other order than their algorithms, and with
a directory under the name of a third one. -/
def listedTree : FileTree :=
  .directory [("d", .directory
    [("manifest-md5!.txt", .file (Utf8.encode "a x\n")),
      ("manifest-sha1.txt", .directory []), ("manifest-md5.txt", .file (Utf8.encode "b x\n"))])]

theorem legal_listedTree : listedTree.Legal := by
  decide

/-- The manifests of this directory. -/
theorem addManifests_hasManifestsOf_listedTree :
    listedTree.Legal ∧
      ∃ b', (addManifests listedTree ⟨"d"⟩ (.new ⟨"/bag"⟩)).outcome = .ok b' ∧
        (b'.manifest? .payload "md5!").map Manifest.entries = some [(⟨"/bag/x"⟩, "a")] ∧
        (∃ e es, TextEncoding.ofLabel? defaultEncodingLabel = some e ∧ listedTree.list ⟨"d"⟩ = .ok es ∧
          b'.HasManifestsOf listedTree e ⟨"d"⟩ ⟨"/bag"⟩ es) ∧
        ∀ t', listedTree.Reordered t' →
          manifestFiles t' ⟨"d"⟩ = manifestFiles listedTree ⟨"d"⟩ ∧
            addManifests t' ⟨"d"⟩ (.new ⟨"/bag"⟩) = addManifests listedTree ⟨"d"⟩ (.new ⟨"/bag"⟩) := by
  have hfiles : manifestFiles listedTree ⟨"d"⟩ =
      .ok [⟨"d/manifest-md5!.txt"⟩, ⟨"d/manifest-md5.txt"⟩] :=
    congrArg Except.ok (List.mergeSort_of_pairwise (by decide))
  have hb : (addManifests listedTree ⟨"d"⟩ (.new ⟨"/bag"⟩)).outcome =
      .ok ((Bag.new ⟨"/bag"⟩).withManifests
        [.ofList "md5!" [(⟨"/bag/x"⟩, "a")], .ofList "md5" [(⟨"/bag/x"⟩, "b")]] []) :=
    (addManifests_eq_ok_iff (e := .utf8) rfl).2 ⟨_, hfiles, _, rfl, rfl⟩
  obtain ⟨hhas, hsame⟩ := addManifests_hasManifestsOf legal_listedTree ⟨"d"⟩ (.new ⟨"/bag"⟩)
  have hm : (Bag.withManifests (.new ⟨"/bag"⟩)
      [.ofList "md5!" [(⟨"/bag/x"⟩, "a")], .ofList "md5" [(⟨"/bag/x"⟩, "b")]] []).manifest?
        .payload "md5!" = some (.ofList "md5!" [(⟨"/bag/x"⟩, "a")]) := by
    obtain ⟨e, es, -, -, hbag⟩ := hhas _ hb
    rw [hbag.manifest?_eq_some_iff]
    exact ⟨(sortManifests_perm _).mem_iff.2 List.mem_cons_self, rfl⟩
  exact ⟨legal_listedTree, _, hb, by rw [hm]; rfl, hhas _ hb, hsame⟩

/-! ### Paths that are too long -/

/-- The path of `d` with further slashes behind it. -/
def slashedPath (n : Nat) : Path :=
  ⟨"d" ++ String.ofList (List.replicate n '/')⟩

theorem toList_slashedPath (n : Nat) : (slashedPath n).text.toList = 'd' :: List.replicate n '/' := by
  rw [slashedPath, String.toList_append, String.toList_ofList (l := List.replicate n '/')]
  rfl

theorem utf8ByteSize_slashedPath (n : Nat) : (slashedPath n).text.utf8ByteSize = n + 1 := by
  have h : (String.ofList (List.replicate n '/')).utf8ByteSize = n := by
    induction n with
    | zero => rfl
    | succ n ih =>
      rw [List.replicate_succ', String.ofList_append, String.utf8ByteSize_append, ih]
      rfl
  rw [slashedPath, String.utf8ByteSize_append, h, Nat.add_comm]
  rfl

theorem steps_slashedPath (n : Nat) : (slashedPath n).steps = [['d']] := by
  have hslash : ∀ n, (Path.parts (List.replicate n '/')).filter Path.leads = [] := by
    intro n
    induction n with
    | zero => rfl
    | succ n ih => rw [List.replicate_succ, Path.parts_slash, List.filter_cons_of_neg (by decide), ih]
  rw [Path.steps, toList_slashedPath]
  cases n with
  | zero => decide
  | succ n =>
    rw [List.replicate_succ, show 'd' :: '/' :: List.replicate n '/' = ['d'] ++ '/' :: List.replicate n '/'
      from rfl, Path.parts_append_slash, List.filter_append, hslash]
    decide

theorem lists_slashedPath {n : Nat} (hn : n < maxPathLength) :
    (FileTree.directory [("d", .directory es)]).list (slashedPath n) = .ok es := by
  refine list_eq_ok ?_ ?_ ?_ ?_
  · rw [toList_slashedPath, List.mem_cons, not_or]
    refine ⟨by decide, fun h => absurd (List.eq_of_mem_replicate h) (by decide)⟩
  · rw [Path.isEmpty, String.isEmpty_eq_false_iff]
    intro h
    have hlen := utf8ByteSize_slashedPath n
    rw [h] at hlen
    exact absurd hlen (by simp)
  · rw [utf8ByteSize_slashedPath]
    exact hn
  · rw [steps_slashedPath]
    rfl

/-- **Files whose paths are too long** are passed over without an error. -/
theorem addManifests_of_long (h : t.Lists dir es)
    (hlong : ∀ x ∈ es, maxPathLength < (dir.join x.1).text.utf8ByteSize) (b : Bag)
    (he : TextEncoding.ofLabel? b.encoding = some e) :
    (addManifests t dir b).outcome = .ok (b.withManifests [] []) := by
  have hfound : es.filter (isManifestEntry dir) = [] := by
    rw [List.filter_eq_nil_iff]
    intro x hx hentry
    exact absurd (isManifestEntry_iff.1 hentry).2.2 (Nat.not_le_of_lt (hlong x hx))
  have hfiles : manifestFiles t dir = .ok [] := by
    rw [manifestFiles_eq h, hfound]
    exact congrArg Except.ok (List.mergeSort_of_pairwise List.Pairwise.nil)
  exact (addManifests_eq_ok_iff he).2 ⟨[], hfiles, [], rfl, rfl⟩

/-- **A path that is too long hides a manifest**: the directory holds the file of one, and the bag
gets none. -/
theorem exists_unlisted_manifest :
    ∃ t dir es b b', t.Legal ∧ t.list dir = .ok es ∧
      (∃ bytes, (fileName .payload "md5", FileTree.file bytes) ∈ es) ∧
      isCandidate (fileName .payload "md5") = true ∧
      (addManifests t dir b).outcome = .ok b' ∧ b'.manifests .payload = [] := by
  let es : List (String × FileTree) := [("manifest-md5.txt", .file (Utf8.encode "abc data/x\n"))]
  have hentries : LegalEntries es := by decide
  have hfile : ∀ x ∈ es, Legal x.2 := by
    intro x hx
    obtain rfl := List.mem_singleton.1 hx
    exact .file _
  have hlegal : Legal (.directory [("d", .directory es)]) := by
    refine .directory (by decide) fun x hx => ?_
    obtain rfl := List.mem_singleton.1 hx
    exact .directory hentries hfile
  have hlist : (FileTree.directory [("d", .directory es)]).list (slashedPath 4080) = .ok es :=
    lists_slashedPath (by decide)
  refine ⟨_, slashedPath 4080, es, .new ⟨"/bag"⟩, _, hlegal, hlist, ⟨_, List.mem_singleton.2 rfl⟩, by decide,
    addManifests_of_long ⟨hlist, hentries⟩ (fun x hx => ?_) _ rfl, List.mergeSort_nil⟩
  obtain rfl := List.mem_singleton.1 hx
  have hlen := (slashedPath 4080).utf8ByteSize_add_le_join (n := "manifest-md5.txt") (by decide)
  rw [utf8ByteSize_slashedPath] at hlen
  exact Nat.lt_of_lt_of_le (by decide) hlen

end ArchivalBag

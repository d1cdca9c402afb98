import ArchivalBag.Bag
import Mathlib.Data.List.Perm.Basic

/-!
# Sorted manifests

The manifests of a bag are sorted by their algorithms, and the sort leaves those of one algorithm in
their order. This makes the sorted list the only one of its kind, and it is the reason why the manifest
that is found by an algorithm is the first one that was given.

* `sortManifests_perm`, `pairwise_le_sortManifests`, `byAlgorithm_sortManifests`: what the sort does.
* `eq_of_byAlgorithm_eq`: lists in order are told by the manifests of each algorithm.
* `pairwise_sortManifests`: the order is strict for manifests by different algorithms.
* `IsStableSort`, `SameUpToAlgorithms`: what the sort keeps, and what it does not depend on.
* `Bag.withManifests_sorts`: what the manifests of a bag are.
-/

namespace ArchivalBag

/-- The manifests by one algorithm. -/
def byAlgorithm (a : String) (ms : List Manifest) : List Manifest :=
  ms.filter fun m => m.algorithm == a

theorem mem_byAlgorithm {a : String} {ms : List Manifest} {m : Manifest} :
    m ∈ byAlgorithm a ms ↔ m ∈ ms ∧ m.algorithm = a := by
  rw [byAlgorithm, List.mem_filter, beq_iff_eq]

theorem byAlgorithm_cons_self (m : Manifest) (ms : List Manifest) :
    byAlgorithm m.algorithm (m :: ms) = m :: byAlgorithm m.algorithm ms :=
  List.filter_cons_of_pos (beq_self_eq_true m.algorithm)

theorem byAlgorithm_cons_of_ne {a : String} {m : Manifest} (h : m.algorithm ≠ a) (ms : List Manifest) :
    byAlgorithm a (m :: ms) = byAlgorithm a ms :=
  List.filter_cons_of_neg (by rw [beq_iff_eq]; exact h)

/-- What a search for an algorithm finds depends on the manifests by this algorithm only. -/
theorem find?_algorithm_congr {a : String} {ms ns : List Manifest}
    (h : byAlgorithm a ms = byAlgorithm a ns) :
    (ms.find? fun m => m.algorithm == a) = ns.find? fun m => m.algorithm == a := by
  rw [← List.head?_filter, ← List.head?_filter]
  exact congrArg List.head? h

/-! ### The sort -/

section Order
variable (a b c : Manifest)

theorem le_algorithm_trans (hab : decide (a.algorithm ≤ b.algorithm) = true)
    (hbc : decide (b.algorithm ≤ c.algorithm) = true) : decide (a.algorithm ≤ c.algorithm) = true := by
  rw [decide_eq_true_eq] at hab hbc ⊢
  exact String.le_trans hab hbc

theorem le_algorithm_total :
    (decide (a.algorithm ≤ b.algorithm) || decide (b.algorithm ≤ a.algorithm)) = true := by
  rw [Bool.or_eq_true, decide_eq_true_eq, decide_eq_true_eq]
  exact String.le_total a.algorithm b.algorithm

end Order

theorem sortManifests_perm (ms : List Manifest) : (sortManifests ms).Perm ms :=
  List.mergeSort_perm ms _

theorem pairwise_le_sortManifests (ms : List Manifest) :
    (sortManifests ms).Pairwise fun m n => m.algorithm ≤ n.algorithm :=
  (List.pairwise_mergeSort le_algorithm_trans le_algorithm_total ms).imp fun h => of_decide_eq_true h

/-- **Manifests by one algorithm keep their order.** -/
theorem byAlgorithm_sortManifests (a : String) (ms : List Manifest) :
    byAlgorithm a (sortManifests ms) = byAlgorithm a ms := by
  -- they are in order as they stand, so they are a sublist of the sorted list, and none is missing there
  have hle : (byAlgorithm a ms).Pairwise fun m n => decide (m.algorithm ≤ n.algorithm) = true := by
    refine List.pairwise_of_forall_mem_list fun m hm n hn => ?_
    have hsame : m.algorithm = n.algorithm := by rw [(mem_byAlgorithm.1 hm).2, (mem_byAlgorithm.1 hn).2]
    exact decide_eq_true (hsame ▸ String.le_refl m.algorithm)
  have hsub : (byAlgorithm a ms).Sublist (sortManifests ms) :=
    List.sublist_mergeSort le_algorithm_trans le_algorithm_total hle List.filter_sublist
  have hsub' := hsub.filter fun m => m.algorithm == a
  have hself : (byAlgorithm a ms).filter (fun m => m.algorithm == a) = byAlgorithm a ms := by
    rw [byAlgorithm, List.filter_filter]
    simp only [Bool.and_self]
  rw [hself] at hsub'
  have hlen : (byAlgorithm a ms).length = (byAlgorithm a (sortManifests ms)).length :=
    ((sortManifests_perm ms).filter _).length_eq.symm
  exact (hsub'.eq_of_length hlen).symm

theorem mem_iff_of_byAlgorithm_eq {ms ns : List Manifest}
    (h : ∀ a, byAlgorithm a ms = byAlgorithm a ns) (m : Manifest) : m ∈ ms ↔ m ∈ ns := by
  have hm : m ∈ byAlgorithm m.algorithm ms ↔ m ∈ byAlgorithm m.algorithm ns := by rw [h]
  rwa [mem_byAlgorithm, mem_byAlgorithm, and_iff_left rfl, and_iff_left rfl] at hm

theorem le_of_mem_of_pairwise {m x : Manifest} {ms : List Manifest}
    (h : (m :: ms).Pairwise fun m n => m.algorithm ≤ n.algorithm) (hx : x ∈ m :: ms) :
    m.algorithm ≤ x.algorithm := by
  rcases List.mem_cons.1 hx with rfl | hx
  · exact String.le_refl _
  · exact List.rel_of_pairwise_cons h hx

/-- **Lists in order are told by the manifests of each algorithm**, since those by the smallest algorithm
come first in both. -/
theorem eq_of_byAlgorithm_eq {ms ns : List Manifest}
    (hms : ms.Pairwise fun m n => m.algorithm ≤ n.algorithm)
    (hns : ns.Pairwise fun m n => m.algorithm ≤ n.algorithm)
    (h : ∀ a, byAlgorithm a ms = byAlgorithm a ns) : ms = ns := by
  induction ms generalizing ns with
  | nil =>
    refine (List.eq_nil_iff_forall_not_mem.2 fun m hm => ?_).symm
    cases (mem_iff_of_byAlgorithm_eq h m).2 hm
  | cons m ms ih =>
    cases ns with
    | nil => cases (mem_iff_of_byAlgorithm_eq h m).1 List.mem_cons_self
    | cons n ns =>
      have hm : m ∈ n :: ns := (mem_iff_of_byAlgorithm_eq h m).1 List.mem_cons_self
      have hn : n ∈ m :: ms := (mem_iff_of_byAlgorithm_eq h n).2 List.mem_cons_self
      have halg : m.algorithm = n.algorithm :=
        String.le_antisymm (le_of_mem_of_pairwise hms hn) (le_of_mem_of_pairwise hns hm)
      have hfirst := h m.algorithm
      rw [byAlgorithm_cons_self, halg, byAlgorithm_cons_self, List.cons.injEq] at hfirst
      obtain ⟨rfl, hsame⟩ := hfirst
      have hrest : ∀ a, byAlgorithm a ms = byAlgorithm a ns := by
        intro a
        by_cases ha : m.algorithm = a
        · rw [← ha]; exact hsame
        · have hother := h a
          rwa [byAlgorithm_cons_of_ne ha, byAlgorithm_cons_of_ne ha] at hother
      rw [ih hms.of_cons hns.of_cons hrest]

/-- **Manifests by different algorithms**, sorted. -/
theorem pairwise_sortManifests {ms : List Manifest} (h : (ms.map Manifest.algorithm).Nodup) :
    (sortManifests ms).Pairwise fun m n => m.algorithm < n.algorithm := by
  have hne : (sortManifests ms).Pairwise fun m n => m.algorithm ≠ n.algorithm := by
    rw [← List.pairwise_map, ← List.nodup_iff_pairwise_ne]
    exact ((sortManifests_perm ms).map Manifest.algorithm).nodup_iff.2 h
  refine (pairwise_le_sortManifests ms).imp₂ (fun m n hmn hne' => ?_) hne
  exact String.not_le.1 fun hnm => hne' (String.le_antisymm hmn hnm)

/-! ### The manifests of a bag -/

/-- The manifests of `ms` in the order of their algorithms, and those by one algorithm as they stand in
`ms`. -/
structure IsStableSort (sorted ms : List Manifest) : Prop where
  perm : sorted.Perm ms
  ascending : sorted.Pairwise fun m n => m.algorithm ≤ n.algorithm
  byAlgorithm_eq : ∀ a, byAlgorithm a sorted = byAlgorithm a ms

/-- The same manifests, and those by one algorithm in the same order. -/
structure SameUpToAlgorithms (ms ns : List Manifest) : Prop where
  perm : ms.Perm ns
  byAlgorithm_eq : ∀ a, byAlgorithm a ms = byAlgorithm a ns

/-- Neighbours by different algorithms may change places. -/
theorem SameUpToAlgorithms.swap {m n : Manifest} (h : m.algorithm ≠ n.algorithm) (ms : List Manifest) :
    SameUpToAlgorithms (m :: n :: ms) (n :: m :: ms) := by
  refine ⟨List.Perm.swap n m ms, fun a => ?_⟩
  by_cases hm : m.algorithm = a
  · have hn : n.algorithm ≠ m.algorithm := Ne.symm h
    rw [← hm, byAlgorithm_cons_self, byAlgorithm_cons_of_ne hn, byAlgorithm_cons_of_ne hn,
      byAlgorithm_cons_self]
  · rw [byAlgorithm_cons_of_ne hm]
    by_cases hn : n.algorithm = a
    · rw [← hn, byAlgorithm_cons_self, byAlgorithm_cons_self, byAlgorithm_cons_of_ne h]
    · rw [byAlgorithm_cons_of_ne hn, byAlgorithm_cons_of_ne hn, byAlgorithm_cons_of_ne hm]

/-- The first manifest by an algorithm. -/
def IsFirstBy (a : String) (ms : List Manifest) (m : Manifest) : Prop :=
  ∃ before after, ms = before ++ m :: after ∧ m.algorithm = a ∧ ∀ x ∈ before, x.algorithm ≠ a

theorem find?_algorithm_eq_some_iff {a : String} {ms : List Manifest} {m : Manifest} :
    (ms.find? fun m => m.algorithm == a) = some m ↔ IsFirstBy a ms m := by
  rw [List.find?_eq_some_iff_append, IsFirstBy]
  simp only [Bool.not_eq_true', beq_eq_false_iff_ne, beq_iff_eq]
  constructor
  · rintro ⟨ha, before, after, hms, hne⟩
    exact ⟨before, after, hms, ha, hne⟩
  · rintro ⟨before, after, hms, ha, hne⟩
    exact ⟨ha, before, after, hms, hne⟩

theorem find?_algorithm_eq_none_iff {a : String} {ms : List Manifest} :
    (ms.find? fun m => m.algorithm == a) = none ↔ ∀ m ∈ ms, m.algorithm ≠ a := by
  simp only [List.find?_eq_none, beq_iff_eq, ne_eq]

theorem isStableSort_sortManifests (ms : List Manifest) : IsStableSort (sortManifests ms) ms :=
  ⟨sortManifests_perm ms, pairwise_le_sortManifests ms, fun a => byAlgorithm_sortManifests a ms⟩

/-- **There is one stable sort** of lists that have the manifests of each algorithm in common. -/
theorem IsStableSort.unique {ms ns sorted sorted' : List Manifest} (h : IsStableSort sorted ms)
    (h' : IsStableSort sorted' ns) (hsame : ∀ a, byAlgorithm a ms = byAlgorithm a ns) :
    sorted = sorted' :=
  eq_of_byAlgorithm_eq h.ascending h'.ascending fun a => by
    rw [h.byAlgorithm_eq, h'.byAlgorithm_eq, hsame]

theorem sortManifests_eq_of_same {ms ns : List Manifest} (h : SameUpToAlgorithms ms ns) :
    sortManifests ms = sortManifests ns :=
  (isStableSort_sortManifests ms).unique (isStableSort_sortManifests ns) h.byAlgorithm_eq

/-- A sorted list is not changed by another sort. -/
theorem sortManifests_sortManifests (ms : List Manifest) :
    sortManifests (sortManifests ms) = sortManifests ms :=
  sortManifests_eq_of_same ⟨sortManifests_perm ms, fun a => byAlgorithm_sortManifests a ms⟩

theorem find?_sortManifests (a : String) (ms : List Manifest) :
    ((sortManifests ms).find? fun m => m.algorithm == a) = ms.find? fun m => m.algorithm == a :=
  find?_algorithm_congr (byAlgorithm_sortManifests a ms)

/-- **The manifests of a bag** are the given ones in the order of their algorithms. Those by one
algorithm keep their order, so that the first one of them that was given is found by its algorithm.
Sorted lists are kept as they are, lists that differ only in how different algorithms are mixed make the
same bag, and the rest of the bag stays as it is. -/
theorem Bag.withManifests_sorts (b : Bag) (payload tag : List Manifest) :
    let b' := b.withManifests payload tag
    (IsStableSort b'.payloadManifests payload ∧ IsStableSort b'.tagManifests tag) ∧
    (∀ a, (∀ m, b'.payloadManifest? a = some m ↔ IsFirstBy a payload m) ∧
      (b'.payloadManifest? a = none ↔ ∀ m ∈ payload, m.algorithm ≠ a)) ∧
    (∀ a, (∀ m, b'.tagManifest? a = some m ↔ IsFirstBy a tag m) ∧
      (b'.tagManifest? a = none ↔ ∀ m ∈ tag, m.algorithm ≠ a)) ∧
    b'.withManifests b'.payloadManifests b'.tagManifests = b' ∧
    (∀ payload' tag', SameUpToAlgorithms payload' payload → SameUpToAlgorithms tag' tag →
      b.withManifests payload' tag' = b') ∧
    b'.root = b.root ∧ b'.version = b.version ∧ b'.encoding = b.encoding ∧
      b'.metadata = b.metadata ∧ b'.fetchItems = b.fetchItems := by
  intro b'
  have hpayload : ∀ a, b'.payloadManifest? a = payload.find? fun m => m.algorithm == a :=
    fun a => find?_sortManifests a payload
  have htag : ∀ a, b'.tagManifest? a = tag.find? fun m => m.algorithm == a :=
    fun a => find?_sortManifests a tag
  refine ⟨⟨isStableSort_sortManifests payload, isStableSort_sortManifests tag⟩, fun a => ?_, fun a => ?_,
    ?_, fun payload' tag' hp ht => ?_, rfl, rfl, rfl, rfl, rfl⟩
  · simp only [hpayload, find?_algorithm_eq_some_iff, find?_algorithm_eq_none_iff, implies_true, and_self]
  · simp only [htag, find?_algorithm_eq_some_iff, find?_algorithm_eq_none_iff, implies_true, and_self]
  · show { b' with payloadManifests := sortManifests (sortManifests payload),
                   tagManifests := sortManifests (sortManifests tag) } = b'
    rw [sortManifests_sortManifests, sortManifests_sortManifests]
    rfl
  · show { b with payloadManifests := sortManifests payload', tagManifests := sortManifests tag' } = b'
    rw [sortManifests_eq_of_same hp, sortManifests_eq_of_same ht]
    rfl

/-- Two manifests by one algorithm that are not the same. -/
def twoOfOne : Manifest × Manifest :=
  (.ofList "md5" [(⟨"/bag/data/a"⟩, "1")], .ofList "md5" [(⟨"/bag/data/a"⟩, "2")])

/-- A third one may stand between them or in front of them. -/
theorem Bag.withManifests_sorts_twoOfOne :
    SameUpToAlgorithms [twoOfOne.1, .empty "crc", twoOfOne.2] [.empty "crc", twoOfOne.1, twoOfOne.2] ∧
      SameUpToAlgorithms [twoOfOne.2, twoOfOne.1] [twoOfOne.2, twoOfOne.1] ∧
      (Bag.new ⟨"/bag"⟩).withManifests [twoOfOne.1, .empty "crc", twoOfOne.2] [twoOfOne.2, twoOfOne.1] =
        (Bag.new ⟨"/bag"⟩).withManifests [.empty "crc", twoOfOne.1, twoOfOne.2]
          [twoOfOne.2, twoOfOne.1] := by
  have hpayload : SameUpToAlgorithms [twoOfOne.1, .empty "crc", twoOfOne.2]
      [.empty "crc", twoOfOne.1, twoOfOne.2] := .swap (by decide) [twoOfOne.2]
  have htag : SameUpToAlgorithms [twoOfOne.2, twoOfOne.1] [twoOfOne.2, twoOfOne.1] :=
    ⟨List.Perm.refl _, fun _ => rfl⟩
  exact ⟨hpayload, htag, (Bag.withManifests_sorts (Bag.new ⟨"/bag"⟩) _ _).2.2.2.2.1 _ _ hpayload htag⟩

end ArchivalBag

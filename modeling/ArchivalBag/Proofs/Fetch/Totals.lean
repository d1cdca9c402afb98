import ArchivalBag.Bag
import Mathlib.Algebra.Order.BigOperators.Group.List
import Mathlib.Algebra.Order.Ring.Nat

/-!
# What is left to be fetched

The bytes to be fetched are added up in words of 64 bits, and a sum that does not fit is cut off at
the largest word. As no number is negative, a partial sum that was cut off stays cut off: the total is
the exact sum, cut off once. What holds of exact sums therefore holds of totals, however the items are
ordered and grouped.

* `exactBytes`: the sum of the known lengths, however large it is.
* `toNat_foldl_saturatingAdd`: numbers that are added up one by one.
* `toNat_totalBytes`: the total is the exact sum, up to the largest word.
* `Bag.totalFetchBytes_saturates`: what this means for the items of a bag.
-/

namespace ArchivalBag

/-- The lengths that are known. -/
def knownLengths (items : List FetchItem) : List UInt64 :=
  items.filterMap fun i => i.length.bytes?

/-- The sum of the lengths that are known, however large it is. -/
def exactBytes (items : List FetchItem) : Nat :=
  ((knownLengths items).map UInt64.toNat).sum

/-! ### Sums that are cut off -/

theorem toNat_maxWord : maxWord.toNat = UInt64.size - 1 := rfl

theorem toNat_saturatingAdd (a b : UInt64) :
    (saturatingAdd a b).toNat = min (a.toNat + b.toNat) (UInt64.size - 1) := by
  unfold saturatingAdd
  by_cases h : a.toNat + b.toNat < UInt64.size
  · rw [if_pos h, UInt64.toNat_add, Nat.mod_eq_of_lt h, Nat.min_eq_left (Nat.le_sub_one_of_lt h)]
  · rw [if_neg h, toNat_maxWord]
    omega

/-- **Numbers that are added up one by one** give the exact sum, which is cut off once. -/
theorem toNat_foldl_saturatingAdd (ws : List UInt64) (a : UInt64) :
    (ws.foldl saturatingAdd a).toNat =
      min (a.toNat + (ws.map UInt64.toNat).sum) (UInt64.size - 1) := by
  induction ws generalizing a with
  | nil =>
    have ha : a.toNat < UInt64.size := a.toNat_lt_size
    rw [List.foldl_nil, List.map_nil, List.sum_nil]
    omega
  | cons w ws ih =>
    -- the partial sum is cut off before the rest is added, which makes no difference to the end
    rw [List.foldl_cons, ih, toNat_saturatingAdd, List.map_cons, List.sum_cons]
    omega

/-- **The total is the exact sum**, up to the largest word. -/
theorem toNat_totalBytes (items : List FetchItem) :
    (totalBytes items).toNat = min (exactBytes items) (UInt64.size - 1) := by
  have h := toNat_foldl_saturatingAdd (knownLengths items) 0
  rwa [UInt64.toNat_zero, Nat.zero_add] at h

theorem totalBytes_congr {items items' : List FetchItem} (h : exactBytes items = exactBytes items') :
    totalBytes items = totalBytes items' := by
  rw [← UInt64.toNat_inj, toNat_totalBytes, toNat_totalBytes, h]

/-! ### Exact sums -/

theorem exactBytes_append (items items' : List FetchItem) :
    exactBytes (items ++ items') = exactBytes items + exactBytes items' := by
  unfold exactBytes knownLengths
  rw [List.filterMap_append, List.map_append, List.sum_append]

theorem exactBytes_perm {items items' : List FetchItem} (h : items.Perm items') :
    exactBytes items = exactBytes items' :=
  ((h.filterMap _).map UInt64.toNat).sum_eq

theorem exactBytes_le_of_sublist {items items' : List FetchItem} (h : items.Sublist items') :
    exactBytes items ≤ exactBytes items' :=
  ((h.filterMap _).map UInt64.toNat).sum_le_sum fun n _ => Nat.zero_le n

/-- The items whose lengths are known. -/
def knownItems (items : List FetchItem) : List FetchItem :=
  items.filter fun i => !i.length.isUnknown

/-- Items of unknown length tell no length. -/
theorem knownLengths_knownItems (items : List FetchItem) :
    knownLengths (knownItems items) = knownLengths items := by
  unfold knownLengths knownItems
  rw [List.filterMap_filter]
  refine List.filterMap_congr fun i _ => ?_
  cases i.length <;> rfl

theorem exactBytes_eq_of_knownItems {items items' : List FetchItem}
    (h : knownItems items = knownItems items') : exactBytes items = exactBytes items' := by
  unfold exactBytes
  rw [← knownLengths_knownItems items, h, knownLengths_knownItems]

/-- A length is known or not. -/
theorem unknownCount_add_length (items : List FetchItem) :
    unknownCount items + (knownLengths items).length = items.length := by
  have hknown : (fun i : FetchItem => i.length.bytes?.isSome) =
      fun i => decide ¬ i.length.isUnknown = true := by
    funext i
    cases i.length <;> rfl
  unfold unknownCount knownLengths
  rw [List.length_filterMap_eq_countP, hknown]
  exact (List.length_eq_countP_add_countP _).symm

/-! ### The items of a bag -/

namespace Bag

/-- **What is left to be fetched** of a bag is the exact sum of the known lengths, up to the largest
word: neither the order of the items nor those of unknown length make a difference, more items never
make it less, and the totals of two parts add up to the whole. Each item has a length that is known or
one that is not, and nothing is left exactly if there are none of either kind. -/
theorem totalFetchBytes_saturates (b : Bag) (items : List FetchItem) :
    let total := fun l => (b.withFetchItems l).totalFetchBytes
    let b' := b.withFetchItems items
    (total items).toNat = min (exactBytes items) (UInt64.size - 1) ∧
    (∀ items', items.Perm items' → total items = total items') ∧
    (∀ items', knownItems items = knownItems items' → total items = total items') ∧
    (∀ items', items.Sublist items' → total items ≤ total items') ∧
    (∀ items', total (items ++ items') = saturatingAdd (total items) (total items')) ∧
    b'.unknownFetchLengths + (knownLengths items).length = items.length ∧
    (b'.isComplete = true ↔ b'.unknownFetchLengths = 0 ∧ (knownLengths items).length = 0) := by
  intro total b'
  have htotal : ∀ l, (total l).toNat = min (exactBytes l) (UInt64.size - 1) := toNat_totalBytes
  have hcount : b'.unknownFetchLengths + (knownLengths items).length = items.length :=
    unknownCount_add_length items
  refine ⟨htotal items, fun items' h => totalBytes_congr (exactBytes_perm h),
    fun items' h => totalBytes_congr (exactBytes_eq_of_knownItems h), fun items' h => ?_,
    fun items' => ?_, hcount, ?_⟩
  · have hle := exactBytes_le_of_sublist h
    rw [UInt64.le_iff_toNat_le, htotal, htotal]
    omega
  · rw [← UInt64.toNat_inj, toNat_saturatingAdd, htotal, htotal, htotal, exactBytes_append]
    omega
  · rw [← Nat.add_eq_zero_iff, hcount, List.length_eq_zero_iff]
    exact List.isEmpty_iff

/-- Files that are to be fetched, of some lengths. -/
def filesOfLength (lengths : List FetchLength) : List FetchItem :=
  lengths.map fun n => ⟨⟨"urn".toList, none, "x".toList, none, none⟩, n, "data/x"⟩

/-- The largest word and another byte are the largest word again, whichever of them comes first. -/
theorem totalFetchBytes_saturates_atLimit :
    let items := filesOfLength [.known maxWord, .known 1]
    let turned := filesOfLength [.known 1, .known maxWord]
    let mixed := filesOfLength [.unknown, .known maxWord, .unknown, .known 1]
    let longer := filesOfLength [.known maxWord, .known 1, .unknown, .known 1]
    items.Perm turned ∧ knownItems items = knownItems mixed ∧ items.Sublist longer ∧
      ∀ b : Bag,
        (b.withFetchItems items).totalFetchBytes = maxWord ∧
          (b.withFetchItems turned).totalFetchBytes = maxWord ∧
          (b.withFetchItems mixed).totalFetchBytes = maxWord ∧
          maxWord ≤ (b.withFetchItems longer).totalFetchBytes := by
  intro items turned mixed longer
  have hperm : items.Perm turned := .swap _ _ _
  have hknown : knownItems items = knownItems mixed := rfl
  have hsub : items.Sublist longer := .cons_cons _ (.cons_cons _ (List.nil_sublist _))
  refine ⟨hperm, hknown, hsub, fun b => ?_⟩
  obtain ⟨-, h₁, h₂, h₃, -⟩ := b.totalFetchBytes_saturates items
  have hmax : (b.withFetchItems items).totalFetchBytes = maxWord := rfl
  exact ⟨hmax, (h₁ _ hperm).symm, (h₂ _ hknown).symm, h₃ _ hsub⟩

end Bag

end ArchivalBag

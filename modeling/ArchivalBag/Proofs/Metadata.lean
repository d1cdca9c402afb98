import ArchivalBag.Metadata
import ArchivalBag.Proofs.Lists
import Mathlib.Data.List.Induction

/-!
# Metadata by keys and values

Metadata are known by the order of their keys and the value of each key, and here both views are
followed through the operations. Given one after the other, pairs leave the keys in the order of their
first pair and the values of their last one.

* `get?_insert`, `get?_appendLine`, `keys_insert`, `keys_appendLine`: what one operation does.
* `Metadata.ext_get?`: keys and values make up the metadata.
* `keys_ofList`, `get?_ofList`, `entries_ofList`: what a list of pairs amounts to.
* `Metadata.insertAll`: further pairs; `keys_insertAll_entries`, `get?_insertAll_entries`: what the
  fields of other metadata do to the keys and the values.
-/

namespace ArchivalBag

namespace Fields

theorem lookup_set (k k' v : String) (l : List (String × String)) :
    lookup k (set k' v l) = if k' = k then some v else lookup k l := by
  induction l with
  | nil => rfl
  | cons e l ih =>
    by_cases h : e.1 = k'
    · rw [set, if_pos h, lookup, lookup, ← h]
      split <;> rfl
    · rw [set, if_neg h, lookup, lookup, ih]
      by_cases hk : e.1 = k
      · have hne : k' ≠ k := fun h' => h (by rw [hk, h'])
        rw [if_pos hk, if_pos hk, if_neg hne]
      · rw [if_neg hk, if_neg hk]

theorem lookup_modify (k k' : String) (f : String → String) (l : List (String × String)) :
    lookup k (modify k' f l) = if k' = k then (lookup k l).map f else lookup k l := by
  induction l with
  | nil => simp [modify, lookup]
  | cons e l ih =>
    by_cases h : e.1 = k'
    · rw [modify, if_pos h, lookup, lookup, ← h]
      split <;> rfl
    · rw [modify, if_neg h, lookup, lookup, ih]
      by_cases hk : e.1 = k
      · have hne : k' ≠ k := fun h' => h (by rw [hk, h'])
        rw [if_pos hk, if_pos hk, if_neg hne]
      · rw [if_neg hk, if_neg hk]

theorem modify_set (k v : String) (f : String → String) (l : List (String × String)) :
    modify k f (set k v l) = set k (f v) l := by
  induction l with
  | nil => simp [modify, set]
  | cons e l ih =>
    by_cases h : e.1 = k
    · rw [set, if_pos h, modify, if_pos h, set, if_pos h]
    · rw [set, if_neg h, modify, if_neg h, set, if_neg h, ih]

theorem map_fst_set (k v : String) (l : List (String × String)) :
    (set k v l).map Prod.fst =
      if k ∈ l.map Prod.fst then l.map Prod.fst else l.map Prod.fst ++ [k] := by
  induction l with
  | nil => simp [set]
  | cons e l ih =>
    by_cases h : e.1 = k
    · rw [set, if_pos h, List.map_cons, List.map_cons, if_pos (by rw [h]; exact List.mem_cons_self)]
    · have hmem : k ∈ e.1 :: l.map Prod.fst ↔ k ∈ l.map Prod.fst := by
        rw [List.mem_cons]
        exact or_iff_right fun h' => h h'.symm
      rw [set, if_neg h, List.map_cons, List.map_cons, ih]
      simp only [hmem]
      split <;> rfl

theorem mem_set {k v : String} {l : List (String × String)} {e : String × String}
    (h : e ∈ set k v l) : e = (k, v) ∨ e ∈ l := by
  induction l with
  | nil => exact .inl (List.mem_singleton.1 h)
  | cons x l ih =>
    rw [set] at h
    split at h
    · rename_i hx
      rcases List.mem_cons.1 h with rfl | h
      · exact .inl (by rw [hx])
      · exact .inr (List.mem_cons_of_mem x h)
    · rcases List.mem_cons.1 h with rfl | h
      · exact .inr List.mem_cons_self
      · exact (ih h).imp_right (List.mem_cons_of_mem x)

theorem set_of_notMem {k : String} {l : List (String × String)} (h : k ∉ l.map Prod.fst)
    (v : String) : set k v l = l ++ [(k, v)] := by
  induction l with
  | nil => rfl
  | cons e l ih =>
    rw [List.map_cons, List.mem_cons, not_or] at h
    rw [set, if_neg (Ne.symm h.1), ih h.2]
    rfl

theorem lookup_eq_none_iff {k : String} {l : List (String × String)} :
    lookup k l = none ↔ k ∉ l.map Prod.fst := by
  induction l with
  | nil => simp [lookup]
  | cons e l ih =>
    rw [lookup, List.map_cons, List.mem_cons, not_or]
    split
    · rename_i h
      simp [h]
    · rename_i h
      rw [ih]
      exact ⟨fun hn => ⟨fun h' => h h'.symm, hn⟩, And.right⟩

theorem lookup_of_mem {l : List (String × String)} (hn : (l.map Prod.fst).Nodup)
    {e : String × String} (he : e ∈ l) : lookup e.1 l = some e.2 := by
  induction l with
  | nil => cases he
  | cons x l ih =>
    obtain ⟨hx, hn⟩ := List.nodup_cons.1 hn
    rw [lookup]
    rcases List.mem_cons.1 he with rfl | he
    · rw [if_pos rfl]
    · have hne : x.1 ≠ e.1 := fun h => hx (by rw [h]; exact List.mem_map_of_mem he)
      rw [if_neg hne, ih hn he]

/-- The other keys keep their values and their places when a value is set. -/
theorem getElem?_set_of_ne {k k' v x : String} {l : List (String × String)} {i : Nat} (h : k ≠ k') :
    (set k' v l)[i]? = some (k, x) ↔ l[i]? = some (k, x) := by
  induction l generalizing i with
  | nil => cases i <;> simp [set, Ne.symm h]
  | cons e l ih =>
    rw [set]
    split
    · rename_i he
      cases i with
      | zero => simp [Prod.ext_iff, he, Ne.symm h]
      | succ i => rfl
    · cases i with
      | zero => rfl
      | succ i => exact ih

/-- The other keys keep their values and their places when a value is modified. -/
theorem getElem?_modify_of_ne {k k' x : String} {f : String → String} {l : List (String × String)}
    {i : Nat} (h : k ≠ k') : (modify k' f l)[i]? = some (k, x) ↔ l[i]? = some (k, x) := by
  induction l generalizing i with
  | nil => rfl
  | cons e l ih =>
    rw [modify]
    split
    · rename_i he
      cases i with
      | zero => simp [Prod.ext_iff, he, Ne.symm h]
      | succ i => rfl
    · cases i with
      | zero => rfl
      | succ i => exact ih

/-- Two lists of fields with the same keys, none twice, and the same values are the same. -/
theorem eq_of_lookup {l l' : List (String × String)} (hn : (l.map Prod.fst).Nodup)
    (hk : l.map Prod.fst = l'.map Prod.fst) (hv : ∀ k, lookup k l = lookup k l') : l = l' := by
  induction l generalizing l' with
  | nil =>
    rw [List.map_nil] at hk
    exact (List.map_eq_nil_iff.1 hk.symm).symm
  | cons e l ih =>
    cases l' with
    | nil => cases hk
    | cons e' l' =>
      obtain ⟨he, hk⟩ := List.cons.inj hk
      obtain ⟨hnot, hn⟩ := List.nodup_cons.1 hn
      have hval : e.2 = e'.2 := by
        have := hv e.1
        rw [lookup, lookup, if_pos rfl, if_pos he.symm] at this
        exact Option.some.inj this
      rw [Prod.ext he hval, ih hn hk fun k => ?_]
      by_cases hke : e.1 = k
      · have h₁ : lookup k l = none := lookup_eq_none_iff.2 (by rw [← hke]; exact hnot)
        have h₂ : lookup k l' = none := lookup_eq_none_iff.2 (by rw [← hke, ← hk]; exact hnot)
        rw [h₁, h₂]
      · have := hv k
        rwa [lookup, lookup, if_neg hke, if_neg (by rw [← he]; exact hke)] at this

end Fields

namespace Metadata

theorem get?_insert (m : Metadata) (k k' v : String) :
    (m.insert k' v).get? k = if k' = k then some v else m.get? k :=
  Fields.lookup_set k k' v m.entries

theorem get?_appendLine (m : Metadata) (k k' line : String) :
    (m.appendLine k' line).get? k =
      if k' = k then (m.get? k).map (· ++ "\n" ++ line) else m.get? k :=
  Fields.lookup_modify k k' _ m.entries

theorem keys_insert (m : Metadata) (k v : String) :
    (m.insert k v).keys = if k ∈ m.keys then m.keys else m.keys ++ [k] :=
  Fields.map_fst_set k v m.entries

theorem keys_appendLine (m : Metadata) (k line : String) : (m.appendLine k line).keys = m.keys :=
  Fields.map_fst_modify k _ m.entries

theorem get?_of_mem {m : Metadata} {e : String × String} (h : e ∈ m.entries) : m.get? e.1 = some e.2 :=
  Fields.lookup_of_mem m.nodup_keys h

theorem eq_of_entries {m m' : Metadata} (h : m.entries = m'.entries) : m = m' := by
  cases m; cases m'; cases h; rfl

/-- A line added to a value that was just given is part of that value. -/
theorem appendLine_insert (m : Metadata) (k v line : String) :
    (m.insert k v).appendLine k line = m.insert k (v ++ "\n" ++ line) := by
  have h : ((m.insert k v).appendLine k line).entries = (m.insert k (v ++ "\n" ++ line)).entries :=
    Fields.modify_set k v _ m.entries
  exact eq_of_entries h

/-- **Keys in order and their values make up the metadata.** -/
theorem ext_get? {m m' : Metadata} (hk : m.keys = m'.keys) (hv : ∀ k, m.get? k = m'.get? k) :
    m = m' :=
  eq_of_entries (Fields.eq_of_lookup m.nodup_keys hk hv)

/-! ### Pairs given one after the other -/

theorem ofList_append_singleton (pairs : List (String × String)) (p : String × String) :
    ofList (pairs ++ [p]) = (ofList pairs).insert p.1 p.2 := by
  rw [ofList, List.foldl_append]; rfl

/-- **The keys stand in the order of their first pairs.** -/
theorem keys_ofList (pairs : List (String × String)) :
    (ofList pairs).keys = (pairs.map Prod.fst).eraseDups := by
  induction pairs using List.reverseRecOn with
  | nil => rfl
  | append_singleton pairs p ih =>
    rw [ofList_append_singleton, keys_insert, ih, List.map_append, List.map_cons, List.map_nil,
      eraseDups_append_singleton]
    simp only [List.mem_eraseDups]

/-- **A key has the value of its last pair.** -/
theorem get?_ofList (pairs : List (String × String)) (k : String) :
    (ofList pairs).get? k = ((pairs.filter fun p => p.1 = k).getLast?).map Prod.snd := by
  induction pairs using List.reverseRecOn with
  | nil => rfl
  | append_singleton pairs p ih =>
    rw [ofList_append_singleton, get?_insert, ih, List.filter_append]
    by_cases h : p.1 = k
    · simp [h]
    · simp [h]

/-- Each field is one of the pairs. -/
theorem mem_of_mem_ofList {pairs : List (String × String)} {e : String × String}
    (h : e ∈ (ofList pairs).entries) : e ∈ pairs := by
  induction pairs using List.reverseRecOn with
  | nil => cases h
  | append_singleton pairs p ih =>
    rw [ofList_append_singleton] at h
    rcases Fields.mem_set h with rfl | h
    · exact List.mem_append_right _ (List.mem_singleton_self _)
    · exact List.mem_append_left _ (ih h)

/-- **Pairs with different keys** are kept as they are. -/
theorem entries_ofList {pairs : List (String × String)} (h : (pairs.map Prod.fst).Nodup) :
    (ofList pairs).entries = pairs := by
  induction pairs using List.reverseRecOn with
  | nil => rfl
  | append_singleton pairs p ih =>
    rw [List.map_append, List.nodup_append] at h
    obtain ⟨hpairs, -, hne⟩ := h
    have hp : p.1 ∉ pairs.map Prod.fst := fun hmem => hne p.1 hmem p.1 (by simp) rfl
    rw [ofList_append_singleton]
    show Fields.set p.1 p.2 (ofList pairs).entries = pairs ++ [p]
    rw [ih hpairs, Fields.set_of_notMem hp]

theorem ofList_entries (m : Metadata) : ofList m.entries = m :=
  eq_of_entries (entries_ofList m.nodup_keys)

/-! ### More pairs -/

/-- The fields with further pairs, given one after the other. -/
def insertAll (m : Metadata) (pairs : List (String × String)) : Metadata :=
  pairs.foldl (fun m (k, v) => m.insert k v) m

theorem insertAll_eq_ofList (m : Metadata) (pairs : List (String × String)) :
    m.insertAll pairs = ofList (m.entries ++ pairs) := by
  rw [ofList, List.foldl_append]
  show m.insertAll pairs = (ofList m.entries).insertAll pairs
  rw [ofList_entries]

theorem keys_insertAll (m : Metadata) (pairs : List (String × String)) :
    (m.insertAll pairs).keys = (m.keys ++ pairs.map Prod.fst).eraseDups := by
  rw [insertAll_eq_ofList, keys_ofList, List.map_append]
  rfl

/-- **New keys come last**, and the others stay where they are. -/
theorem keys_insertAll_entries (m m' : Metadata) :
    (m.insertAll m'.entries).keys = m.keys ++ m'.keys.filter (· ∉ m.keys) := by
  have hrest : m'.keys.removeAll m.keys = m'.keys.filter (· ∉ m.keys) := by
    rw [List.removeAll]
    refine List.filter_congr fun k _ => ?_
    rw [List.elem_eq_mem, decide_not]
  have hold : m.keys.eraseDups = m.keys := eraseDups_eq_self m.nodup_keys
  have hnew : (m'.keys.filter (· ∉ m.keys)).Nodup := m'.nodup_keys.filter _
  rw [keys_insertAll, List.eraseDups_append, hold]
  show m.keys ++ (m'.keys.removeAll m.keys).eraseDups = _
  rw [hrest, eraseDups_eq_self hnew]

/-- **The new value of a key counts** if there is one. -/
theorem get?_insertAll_entries (m m' : Metadata) (k : String) :
    (m.insertAll m'.entries).get? k = (m'.get? k).or (m.get? k) := by
  have hm := get?_ofList m.entries k
  have hm' := get?_ofList m'.entries k
  rw [ofList_entries] at hm hm'
  rw [insertAll_eq_ofList, get?_ofList, List.filter_append, List.getLast?_append, hm, hm', Option.map_or]

theorem insertAll_insert (m m' : Metadata) (k v : String) :
    m.insertAll (m'.insert k v).entries = (m.insertAll m'.entries).insert k v := by
  refine ext_get? ?_ fun k' => ?_
  · have hk : (m'.insert k v).entries.map Prod.fst = if k ∈ m'.keys then m'.keys else m'.keys ++ [k] :=
      keys_insert m' k v
    rw [keys_insert, keys_insertAll, keys_insertAll, hk]
    show _ = if k ∈ (m.keys ++ m'.keys).eraseDups then _ else _
    by_cases hmem : k ∈ m'.keys
    · have hall : k ∈ (m.keys ++ m'.keys).eraseDups :=
        List.mem_eraseDups.2 (List.mem_append_right m.keys hmem)
      rw [if_pos hmem, if_pos hall]
      rfl
    · rw [if_neg hmem, ← List.append_assoc, eraseDups_append_singleton]
      simp only [List.mem_eraseDups]
      rfl
  · rw [get?_insert, get?_insertAll_entries, get?_insertAll_entries, get?_insert]
    split <;> rfl

theorem insertAll_appendLine (m : Metadata) {m' : Metadata} {k : String} (h : k ∈ m'.keys)
    (line : String) :
    m.insertAll (m'.appendLine k line).entries = (m.insertAll m'.entries).appendLine k line := by
  refine ext_get? ?_ fun k' => ?_
  · have hk : (m'.appendLine k line).entries.map Prod.fst = m'.keys := keys_appendLine m' k line
    rw [keys_appendLine, keys_insertAll, keys_insertAll, hk]
    rfl
  · rw [get?_appendLine, get?_insertAll_entries, get?_insertAll_entries, get?_appendLine]
    split
    · rename_i hk
      obtain ⟨v, hv⟩ : ∃ v, m'.get? k' = some v :=
        Option.ne_none_iff_exists'.1 fun hnone =>
          Fields.lookup_eq_none_iff.1 hnone (by rw [← hk]; exact h)
      rw [hv]
      rfl
    · rfl

end Metadata

end ArchivalBag

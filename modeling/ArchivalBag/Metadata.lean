/-!
# Metadata

The fields of a bag, in the order in which their keys first came. A key has one value; giving it a
new one leaves its place alone.

* `Metadata.insert`: the value of a key becomes the given one.
* `Metadata.appendLine`: the value of a key grows by a line.
* `Metadata.get?`: the value of a key.
* `Metadata.getThenInsert`, `Metadata.containsThenAppendLine`: the same changes with an answer, what the
  value was and whether there was one.
* `Metadata.ofList`: the fields of a list of pairs, given one after the other.
-/

namespace ArchivalBag

namespace Fields

/-- The value of a key in a list of fields. -/
def lookup (k : String) : List (String × String) → Option String
  | [] => none
  | (k', v) :: r => if k' = k then some v else lookup k r

/-- The fields with the value of `k` set to `v`, in place if there is one, else at the end. -/
def set (k v : String) : List (String × String) → List (String × String)
  | [] => [(k, v)]
  | (k', v') :: r => if k' = k then (k', v) :: r else (k', v') :: set k v r

/-- The fields with `f` applied to the value of `k`. -/
def modify (k : String) (f : String → String) : List (String × String) → List (String × String)
  | [] => []
  | (k', v) :: r => if k' = k then (k', f v) :: r else (k', v) :: modify k f r

/-- The first value of `k`, and the fields with that value set to `v`, all in one pass. -/
def lookupThenSet (k v : String) : List (String × String) → Option String × List (String × String)
  | [] => (none, [(k, v)])
  | (k', v') :: r =>
    if k' = k then (some v', (k', v) :: r)
    else
      let (old, r) := lookupThenSet k v r
      (old, (k', v') :: r)

/-- Whether `k` has a value, and the fields with `f` applied to it, all in one pass. -/
def containsThenModify (k : String) (f : String → String) :
    List (String × String) → Bool × List (String × String)
  | [] => (false, [])
  | (k', v) :: r =>
    if k' = k then (true, (k', f v) :: r)
    else
      let (found, r) := containsThenModify k f r
      (found, (k', v) :: r)

theorem lookupThenSet_eq (k v : String) (l : List (String × String)) :
    lookupThenSet k v l = (lookup k l, set k v l) := by
  induction l with
  | nil => rfl
  | cons e r ih =>
    by_cases h : e.1 = k <;> simp [lookupThenSet, lookup, set, h, ih]

theorem containsThenModify_eq (k : String) (f : String → String) (l : List (String × String)) :
    containsThenModify k f l = ((lookup k l).isSome, modify k f l) := by
  induction l with
  | nil => rfl
  | cons e r ih =>
    by_cases h : e.1 = k <;> simp [containsThenModify, lookup, modify, h, ih]

theorem mem_map_set {k v x : String} {l : List (String × String)} :
    x ∈ (set k v l).map Prod.fst ↔ x = k ∨ x ∈ l.map Prod.fst := by
  induction l with
  | nil => simp [set]
  | cons e r ih =>
    by_cases h : e.1 = k
    · simp [set, h]
    · simp only [set, h, if_false, List.map_cons, List.mem_cons, ih]
      exact or_left_comm

theorem map_fst_modify (k : String) (f : String → String) (l : List (String × String)) :
    (modify k f l).map Prod.fst = l.map Prod.fst := by
  induction l with
  | nil => rfl
  | cons e r ih =>
    by_cases h : e.1 = k <;> simp [modify, h, ih]

theorem nodup_set {k v : String} {l : List (String × String)}
    (h : (l.map Prod.fst).Nodup) : ((set k v l).map Prod.fst).Nodup := by
  induction l with
  | nil => simp [set]
  | cons e r ih =>
    rw [List.map_cons, List.nodup_cons] at h
    by_cases hk : e.1 = k
    · simp only [set, hk, if_true, List.map_cons]
      rw [← hk]
      exact List.nodup_cons.2 h
    · simp only [set, hk, if_false, List.map_cons]
      refine List.nodup_cons.2 ⟨?_, ih h.2⟩
      rw [mem_map_set]
      rintro (h' | h')
      · exact hk h'
      · exact h.1 h'

theorem nodup_lookupThenSet {k v : String} {l : List (String × String)}
    (h : (l.map Prod.fst).Nodup) : ((lookupThenSet k v l).2.map Prod.fst).Nodup := by
  rw [lookupThenSet_eq]
  exact nodup_set h

theorem nodup_containsThenModify {k : String} {f : String → String} {l : List (String × String)}
    (h : (l.map Prod.fst).Nodup) : ((containsThenModify k f l).2.map Prod.fst).Nodup := by
  rw [containsThenModify_eq, map_fst_modify]
  exact h

end Fields

/-- Fields with distinct keys, in order. -/
structure Metadata where
  entries : List (String × String)
  nodup_keys : (entries.map Prod.fst).Nodup := by decide
  deriving DecidableEq

namespace Metadata

/-- No fields. -/
def empty : Metadata where
  entries := []

instance : Inhabited Metadata := ⟨empty⟩

/-- The value of a key. -/
def get? (m : Metadata) (k : String) : Option String :=
  Fields.lookup k m.entries

/-- The key has a value. -/
def contains (m : Metadata) (k : String) : Bool :=
  (m.get? k).isSome

/-- The fields with the value of `k` set to `v`. -/
def insert (m : Metadata) (k v : String) : Metadata where
  entries := Fields.set k v m.entries
  nodup_keys := Fields.nodup_set m.nodup_keys

/-- The fields with a line added to the value of `k`; nothing changes if `k` has none. -/
def appendLine (m : Metadata) (k line : String) : Metadata where
  entries := Fields.modify k (fun v => v ++ "\n" ++ line) m.entries
  nodup_keys := by rw [Fields.map_fst_modify]; exact m.nodup_keys

/-- The value of `k`, and the fields with the value of `k` set to `v`. -/
def getThenInsert (m : Metadata) (k v : String) : Option String × Metadata :=
  let r := Fields.lookupThenSet k v m.entries
  (r.1, ⟨r.2, Fields.nodup_lookupThenSet m.nodup_keys⟩)

/-- Whether `k` has a value, and the fields with a line added to it. -/
def containsThenAppendLine (m : Metadata) (k line : String) : Bool × Metadata :=
  let r := Fields.containsThenModify k (fun v => v ++ "\n" ++ line) m.entries
  (r.1, ⟨r.2, Fields.nodup_containsThenModify m.nodup_keys⟩)

theorem getThenInsert_eq (m : Metadata) (k v : String) :
    m.getThenInsert k v = (m.get? k, m.insert k v) := by
  simp [getThenInsert, get?, insert, Fields.lookupThenSet_eq]

theorem containsThenAppendLine_eq (m : Metadata) (k line : String) :
    m.containsThenAppendLine k line = (m.contains k, m.appendLine k line) := by
  simp [containsThenAppendLine, contains, get?, appendLine, Fields.containsThenModify_eq]

/-- The keys, in order. -/
def keys (m : Metadata) : List String :=
  m.entries.map Prod.fst

/-- The number of fields. -/
def size (m : Metadata) : Nat :=
  m.entries.length

/-- There are no fields. -/
def isEmpty (m : Metadata) : Bool :=
  m.entries.isEmpty

/-- The fields of a list of pairs, given one after the other. -/
def ofList (pairs : List (String × String)) : Metadata :=
  pairs.foldl (fun m (k, v) => m.insert k v) empty

end Metadata

end ArchivalBag

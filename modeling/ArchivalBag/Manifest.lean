import ArchivalBag.Path

/-!
# Manifests

A manifest gives the checksum of each of a set of files, in the order of their paths. It has one
entry per path, however the path is spelled; the spelling is the one that came first and the checksum
the one that came last.

* `Manifest.insert`: the checksum of a path becomes the given one.
* `Manifest.checksum?`: the checksum of a path.
* `Manifest.ofList`: the entries of a list of pairs, given one after the other.
-/

namespace ArchivalBag

namespace Entries

/-- The entries with the checksum of `p` set to `c`; `k` is what `p` is ordered by. -/
def insertAt (k : List (List Nat)) (p : Path) (c : String) :
    List (Path × String) → List (Path × String)
  | [] => [(p, c)]
  | (q, d) :: r =>
    if k = q.key then (q, c) :: r
    else if k < q.key then (p, c) :: (q, d) :: r
    else (q, d) :: insertAt k p c r

/-- The entries are listed by their paths. -/
def Ascending (l : List (Path × String)) : Prop :=
  l.Pairwise fun a b => a.1.key < b.1.key

theorem key_insertAt {p : Path} {c : String} {l : List (Path × String)} {e : Path × String}
    (h : e ∈ insertAt p.key p c l) : e.1.key = p.key ∨ e ∈ l := by
  induction l with
  | nil => simp only [insertAt, List.mem_singleton] at h; simp [h]
  | cons x r ih =>
    simp only [insertAt] at h
    split at h
    · rename_i hk
      rcases List.mem_cons.1 h with rfl | h
      · exact Or.inl hk.symm
      · exact Or.inr (List.mem_cons_of_mem _ h)
    · split at h
      · rcases List.mem_cons.1 h with rfl | h
        · exact Or.inl rfl
        · exact Or.inr h
      · rcases List.mem_cons.1 h with rfl | h
        · exact Or.inr List.mem_cons_self
        · exact (ih h).imp id (List.mem_cons_of_mem _)

theorem ascending_insertAt {p : Path} {c : String} {l : List (Path × String)}
    (h : Ascending l) : Ascending (insertAt p.key p c l) := by
  induction l with
  | nil => simp [insertAt, Ascending]
  | cons x r ih =>
    obtain ⟨hx, hr⟩ := List.pairwise_cons.1 h
    simp only [insertAt]
    split
    · exact List.pairwise_cons.2 ⟨hx, hr⟩
    · split
      · rename_i hlt
        refine List.pairwise_cons.2 ⟨fun e he => ?_, h⟩
        rcases List.mem_cons.1 he with rfl | he
        · exact hlt
        · exact List.lt_trans hlt (hx e he)
      · rename_i hne hnlt
        refine List.pairwise_cons.2 ⟨fun e he => ?_, ih hr⟩
        rcases key_insertAt he with hk | he
        · rw [hk]
          rcases Std.lt_trichotomy x.1.key p.key with h' | h' | h'
          · exact h'
          · exact absurd h'.symm hne
          · exact absurd h' hnlt
        · exact hx e he

end Entries

/-- The checksums of a set of files by one algorithm. -/
structure Manifest where
  algorithm : String
  entries : List (Path × String)
  ascending : Entries.Ascending entries := by exact List.Pairwise.nil
  deriving DecidableEq

namespace Manifest

/-- A manifest without entries. -/
def empty (algorithm : String) : Manifest where
  algorithm := algorithm
  entries := []

/-- The manifest with the checksum of `p` set to `c`. -/
def insert (m : Manifest) (p : Path) (c : String) : Manifest where
  algorithm := m.algorithm
  entries := Entries.insertAt p.key p c m.entries
  ascending := Entries.ascending_insertAt m.ascending

/-- The manifest of a list of entries, given one after the other. -/
def ofList (algorithm : String) (entries : List (Path × String)) : Manifest :=
  entries.foldl (fun m (p, c) => m.insert p c) (empty algorithm)

/-- The checksum of a path. -/
def checksum? (m : Manifest) (p : Path) : Option String :=
  let k := p.key
  (m.entries.find? fun e => e.1.key = k).map (·.2)

/-- The paths, in order. -/
def paths (m : Manifest) : List Path :=
  m.entries.map (·.1)

/-- The number of entries. -/
def size (m : Manifest) : Nat :=
  m.entries.length

/-- There are no entries. -/
def isEmpty (m : Manifest) : Bool :=
  m.entries.isEmpty

/-- Two manifests with the same checksums for the same paths, however these are spelled. -/
def Same (m n : Manifest) : Prop :=
  m.algorithm = n.algorithm ∧
    m.entries.map (fun e => (e.1.key, e.2)) = n.entries.map (fun e => (e.1.key, e.2))

instance (m n : Manifest) : Decidable (m.Same n) :=
  inferInstanceAs (Decidable (_ ∧ _))

end Manifest

end ArchivalBag

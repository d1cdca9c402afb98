import ArchivalBag.Proofs.FileTree

/-!
# What paths lead to

A path leads to nothing, to a directory, or to a file with its bytes. This is all that a reader can
tell about one path, but for the entries of a directory and for why a path leads to nothing.

* `FileTree.find`: what a path leads to.
* `contains_congr`, `read_congr`: trees in which a path leads to the same give the same answers.
* `Lists.find_join_eq_file_iff`: the files of a directory.
* `exists_fileName?_of_read`: a path that leads to a file ends with its name.
-/

namespace ArchivalBag.FileTree

/-- What a path leads to. -/
inductive Finding where
  | absent
  | directory
  | file (bytes : List UInt8)
  deriving DecidableEq

/-- What a path leads to in a tree. -/
def find (t : FileTree) (p : Path) : Finding :=
  match t.resolve p with
  | .error _ => .absent
  | .ok (.directory _) => .directory
  | .ok (.file b) => .file b

variable {t t' : FileTree} {p : Path}

theorem contains_eq_false_iff : t.contains p = false ↔ t.find p = .absent := by
  unfold contains find
  cases t.resolve p with
  | error f => simp [Except.toBool]
  | ok u => cases u <;> simp [Except.toBool]

theorem contains_of_find_eq_file {b : List UInt8} (h : t.find p = .file b) : t.contains p = true := by
  rw [← Bool.not_eq_false, contains_eq_false_iff, h]
  exact Finding.noConfusion

theorem isFile_iff : t.isFile p = true ↔ ∃ b, t.find p = .file b := by
  unfold isFile find
  cases t.resolve p with
  | error f => simp
  | ok u => cases u <;> simp

theorem read_eq_ok_iff {b : List UInt8} : t.read p = .ok b ↔ t.find p = .file b := by
  unfold FileTree.read find
  cases t.resolve p with
  | error f => simp
  | ok u => cases u <;> simp

theorem read_of_find_eq_directory (h : t.find p = .directory) : t.read p = .error .isADirectory := by
  unfold FileTree.read
  unfold find at h
  cases hu : t.resolve p with
  | error f => rw [hu] at h; cases h
  | ok u =>
    rw [hu] at h
    cases u with
    | file b => cases h
    | directory es => rfl

theorem find_eq_file_iff {b : List UInt8} : t.find p = .file b ↔ t.resolve p = .ok (.file b) := by
  unfold find
  cases t.resolve p with
  | error f => simp
  | ok u => cases u <;> simp

/-! ### The same answers -/

theorem contains_congr (h : t.find p = t'.find p) : t.contains p = t'.contains p := by
  rw [← Bool.not_inj_iff, Bool.eq_iff_iff, Bool.not_eq_true', Bool.not_eq_true', contains_eq_false_iff,
    contains_eq_false_iff, h]

/-- **What there is is read alike.** Of a path that leads to nothing only the reason can differ. -/
theorem read_congr (h : t.find p = t'.find p) (hc : t.contains p = true) : t.read p = t'.read p := by
  cases hf : t.find p with
  | absent =>
    rw [contains_eq_false_iff.2 hf] at hc
    cases hc
  | directory => rw [read_of_find_eq_directory hf, read_of_find_eq_directory (h ▸ hf)]
  | file b => rw [read_eq_ok_iff.2 hf, read_eq_ok_iff.2 (h ▸ hf)]

/-! ### Directories -/

/-- **The files of a directory** are what the paths of their names lead to, unless these are too
long. -/
theorem Lists.find_join_eq_file_iff {dir : Path} {es : List (String × FileTree)} (h : t.Lists dir es)
    {n : String} (hn : IsName n) {b : List UInt8} :
    t.find (dir.join n) = .file b ↔
      (n, .file b) ∈ es ∧ (dir.join n).text.utf8ByteSize ≤ maxPathLength := by
  rw [find_eq_file_iff]
  refine ⟨h.mem_of_resolve_join hn, ?_⟩
  rintro ⟨hmem, hlen⟩
  exact h.resolve_join_of_mem hmem hlen

/-- A name that no entry has leads to nothing. -/
theorem Lists.find_join_eq_absent {dir : Path} {es : List (String × FileTree)} (h : t.Lists dir es)
    {n : String} (hn : IsName n) (hes : n ∉ es.map Prod.fst) : t.find (dir.join n) = .absent := by
  unfold find
  cases hu : t.resolve (dir.join n) with
  | error f => rfl
  | ok u => exact absurd (List.mem_map_of_mem (h.mem_of_resolve_join hn hu).1) hes

/-! ### Files have names -/

/-- A walk that ends at a file has not moved, or its last part is a name: all other parts lead to
directories, provided that those that were passed are directories. -/
theorem eq_nil_or_exists_name_of_walk {ps : List (List Char)} {above : List FileTree} {here : FileTree}
    {b : List UInt8} (habove : ∀ u ∈ above, ∃ es, u = directory es)
    (h : walk above here ps = .ok (file b)) :
    (ps = [] ∧ here = file b) ∨
      ∃ q, ps.getLast? = some q ∧ Path.leads q = true ∧ q ≠ ['.', '.'] := by
  induction ps generalizing above here with
  | nil => exact .inl ⟨rfl, Except.ok.inj h⟩
  | cons p ps ih =>
    right
    have hlast : ∀ q, ps.getLast? = some q → (p :: ps).getLast? = some q := by
      intro q hq
      rw [List.getLast?_cons, hq]
      rfl
    -- behind a directory there are further parts
    have hfrom : ∀ above' es, (∀ u ∈ above', ∃ ds, u = directory ds) →
        walk above' (directory es) ps = .ok (file b) →
        ∃ q, (p :: ps).getLast? = some q ∧ Path.leads q = true ∧ q ≠ ['.', '.'] := by
      intro above' es habove' hw
      rcases ih habove' hw with ⟨-, hd⟩ | ⟨q, hq, hname⟩
      · cases hd
      · exact ⟨q, hlast q hq, hname⟩
    cases here with
    | file c => cases h
    | directory ds =>
      rw [walk_directory_cons] at h
      by_cases hp : p = [] ∨ p = ['.']
      · rw [if_pos hp] at h
        exact hfrom above ds habove h
      · rw [if_neg hp] at h
        by_cases hpp : p = ['.', '.']
        · rw [if_pos hpp] at h
          cases above with
          | nil => exact hfrom [] ds habove h
          | cons u us =>
            obtain ⟨es, rfl⟩ := habove u List.mem_cons_self
            exact hfrom us es (fun v hv => habove v (List.mem_cons_of_mem _ hv)) h
        · rw [if_neg hpp] at h
          split at h
          · cases h
          · cases hl : lookup (String.ofList p) ds with
            | none => rw [hl] at h; cases h
            | some u =>
              rw [hl] at h
              rcases ih (List.forall_mem_cons.2 ⟨⟨ds, rfl⟩, habove⟩) h with ⟨rfl, -⟩ | ⟨q, hq, hname⟩
              · exact ⟨p, rfl, by simpa [Path.leads, not_or] using hp, hpp⟩
              · exact ⟨q, hlast q hq, hname⟩

/-- **A path that leads to a file ends with its name.** -/
theorem exists_fileName?_of_read {b : List UInt8} (h : t.read p = .ok b) :
    ∃ n, p.fileName? = some n := by
  have hu : t.resolve p = .ok (file b) := find_eq_file_iff.1 (read_eq_ok_iff.1 h)
  unfold resolve at hu
  cases hr : route p with
  | error f => rw [hr] at hu; cases hu
  | ok ps =>
    rw [hr] at hu
    obtain ⟨-, -, rfl⟩ := of_route_eq_ok hr
    rcases eq_nil_or_exists_name_of_walk (fun v hv => absurd hv List.not_mem_nil) hu with
      ⟨hnil, -⟩ | ⟨q, hq, hlead, hne⟩
    · exact absurd hnil (Path.parts_ne_nil _)
    · exact ⟨_, Path.fileName?_of_getLast? hq hlead hne⟩

end ArchivalBag.FileTree

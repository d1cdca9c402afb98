import ArchivalBag.FileTree
import ArchivalBag.Proofs.Path

/-!
# Entries of a directory by their paths

The path of a directory and a name behind it lead to the entry of this name, however the path of the
directory is spelled. In particular the absolute form of the path will do.

* `LegalEntries`: the names that the entries of a directory can have.
* `walk_filter_leads`: only the steps of a path matter on the way to a directory.
* `exists_list_of_resolve_join`: an entry that can be found is in a directory that can be listed.
* `Lists`: a directory with its entries; `Lists.resolve_join`: the entry behind it.
* `DirectoryAt`: a directory by the absolute form of its path.
-/

namespace ArchivalBag.FileTree

open Text

/-! ### Names of entries -/

/-- A name that an entry of a directory can have. -/
structure IsName (n : String) : Prop where
  isStep : Path.IsStep n.toList
  ne_parent : n ≠ ".."
  plain : Char.ofNat 0 ∉ n.toList
  short : n.utf8ByteSize ≤ maxNameLength

instance (n : String) : Decidable (IsName n) :=
  decidable_of_iff ((n.toList ≠ [] ∧ n.toList ≠ ['.'] ∧ '/' ∉ n.toList) ∧ n ≠ ".." ∧
      Char.ofNat 0 ∉ n.toList ∧ n.utf8ByteSize ≤ maxNameLength)
    ⟨fun ⟨⟨h₁, h₂, h₃⟩, h₄, h₅, h₆⟩ => ⟨⟨h₁, h₂, h₃⟩, h₄, h₅, h₆⟩,
      fun ⟨⟨h₁, h₂, h₃⟩, h₄, h₅, h₆⟩ => ⟨⟨h₁, h₂, h₃⟩, h₄, h₅, h₆⟩⟩

/-- The entries of a directory: each has a name, and no two have the same. -/
structure LegalEntries (es : List (String × FileTree)) : Prop where
  isName : ∀ e ∈ es, IsName e.1
  nodup : (es.map Prod.fst).Nodup

instance (es : List (String × FileTree)) : Decidable (LegalEntries es) :=
  decidable_of_iff ((∀ e ∈ es, IsName e.1) ∧ (es.map Prod.fst).Nodup)
    ⟨fun ⟨h₁, h₂⟩ => ⟨h₁, h₂⟩, fun ⟨h₁, h₂⟩ => ⟨h₁, h₂⟩⟩

theorem lookup_of_mem {es : List (String × FileTree)} (h : (es.map Prod.fst).Nodup) {n : String}
    {u : FileTree} (hu : (n, u) ∈ es) : lookup n es = some u := by
  induction es with
  | nil => cases hu
  | cons e es ih =>
    obtain ⟨hnot, hnodup⟩ := List.nodup_cons.1 h
    unfold lookup
    rcases List.mem_cons.1 hu with rfl | hu
    · rw [if_pos rfl]
    · have hne : e.1 ≠ n := fun he => hnot (he ▸ List.mem_map_of_mem hu)
      rw [if_neg hne]
      exact ih hnodup hu

theorem mem_of_lookup {es : List (String × FileTree)} {n : String} {u : FileTree}
    (h : lookup n es = some u) : (n, u) ∈ es := by
  induction es with
  | nil => cases h
  | cons e es ih =>
    unfold lookup at h
    split at h
    · rename_i hn
      rw [← hn, ← Option.some.inj h]
      exact List.mem_cons_self
    · exact List.mem_cons_of_mem _ (ih h)

/-! ### Walks to a directory -/

theorem walk_directory_cons (above : List FileTree) (ds : List (String × FileTree)) (p : List Char)
    (ps : List (List Char)) :
    walk above (directory ds) (p :: ps) =
      if p = [] ∨ p = ['.'] then walk above (directory ds) ps
      else if p = ['.', '.'] then
        match above with
        | [] => walk [] (directory ds) ps
        | t :: ts => walk ts t ps
      else if maxNameLength < (String.ofList p).utf8ByteSize then .error .nameTooLong
      else
        match lookup (String.ofList p) ds with
        | none => .error .notFound
        | some t => walk (directory ds :: above) t ps := rfl

/-- **Only the steps of a path matter** on the way to a directory. -/
theorem walk_filter_leads {ps : List (List Char)} {above : List FileTree} {here : FileTree}
    {es : List (String × FileTree)} :
    walk above here (ps.filter Path.leads) = .ok (directory es) ↔
      walk above here ps = .ok (directory es) := by
  induction ps generalizing above here with
  | nil => exact Iff.rfl
  | cons p ps ih =>
    cases here with
    | file b =>
      have hfile : ∀ qs, walk above (file b) qs ≠ .ok (directory es) := by
        intro qs hq
        cases qs <;> cases hq
      exact ⟨fun h => absurd h (hfile _), fun h => absurd h (hfile _)⟩
    | directory ds =>
      by_cases hp : p = [] ∨ p = ['.']
      · have hl : ¬ Path.leads p = true := by
          rcases hp with rfl | rfl <;> decide
        rw [List.filter_cons_of_neg hl, ih, walk_directory_cons, if_pos hp]
      · have hl : Path.leads p = true := by
          simpa [Path.leads, not_or] using hp
        rw [List.filter_cons_of_pos hl, walk_directory_cons, walk_directory_cons, if_neg hp, if_neg hp]
        by_cases hpp : p = ['.', '.']
        · rw [if_pos hpp, if_pos hpp]
          cases above with
          | nil => exact ih
          | cons t ts => exact ih
        · rw [if_neg hpp, if_neg hpp]
          split
          · exact Iff.rfl
          · cases lookup (String.ofList p) ds with
            | none => exact Iff.rfl
            | some t => exact ih

/-- The entry behind a directory. -/
theorem walk_append_name {ps : List (List Char)} {above : List FileTree} {here : FileTree}
    {es : List (String × FileTree)} (h : walk above here ps = .ok (directory es)) {n : String}
    (hn : IsName n) :
    walk above here (ps ++ [n.toList]) =
      match lookup n es with
      | none => .error .notFound
      | some u => .ok u := by
  induction ps generalizing above here with
  | nil =>
    obtain rfl := Except.ok.inj h
    have h₁ : ¬ (n.toList = [] ∨ n.toList = ['.']) :=
      not_or.2 ⟨hn.isStep.ne_nil, hn.isStep.ne_dot⟩
    have h₂ : n.toList ≠ ['.', '.'] := fun h => hn.ne_parent (String.toList_inj.1 h)
    have h₃ : ¬ maxNameLength < n.utf8ByteSize := Nat.not_lt.2 hn.short
    rw [List.nil_append, walk_directory_cons, if_neg h₁, if_neg h₂, String.ofList_toList, if_neg h₃]
    cases lookup n es <;> rfl
  | cons p ps ih =>
    cases here with
    | file b => cases h
    | directory ds =>
      rw [walk_directory_cons] at h
      rw [List.cons_append, walk_directory_cons]
      by_cases hp : p = [] ∨ p = ['.']
      · rw [if_pos hp] at h ⊢
        exact ih h
      · rw [if_neg hp] at h ⊢
        by_cases hpp : p = ['.', '.']
        · rw [if_pos hpp] at h ⊢
          cases above with
          | nil => exact ih h
          | cons t ts => exact ih h
        · rw [if_neg hpp] at h ⊢
          split at h
          · cases h
          · rename_i hs
            rw [if_neg hs]
            cases hl : lookup (String.ofList p) ds with
            | none => rw [hl] at h; cases h
            | some t => rw [hl] at h; exact ih h

/-- A walk that goes on has come to a directory. -/
theorem exists_directory_of_walk_append {ps : List (List Char)} {above : List FileTree}
    {here u : FileTree} {q : List Char} (h : walk above here (ps ++ [q]) = .ok u) :
    ∃ es, walk above here ps = .ok (directory es) := by
  induction ps generalizing above here with
  | nil =>
    cases here with
    | file b => cases h
    | directory es => exact ⟨es, rfl⟩
  | cons p ps ih =>
    cases here with
    | file b => cases h
    | directory ds =>
      rw [List.cons_append, walk_directory_cons] at h
      rw [walk_directory_cons]
      by_cases hp : p = [] ∨ p = ['.']
      · rw [if_pos hp] at h ⊢
        exact ih h
      · rw [if_neg hp] at h ⊢
        by_cases hpp : p = ['.', '.']
        · rw [if_pos hpp] at h ⊢
          cases above with
          | nil => exact ih h
          | cons t ts => exact ih h
        · rw [if_neg hpp] at h ⊢
          split at h
          · cases h
          · rename_i hs
            rw [if_neg hs]
            cases hl : lookup (String.ofList p) ds with
            | none => rw [hl] at h; cases h
            | some t => rw [hl] at h; exact ih h

/-! ### Paths of entries -/

theorem route_eq_ok {p : Path} (hnul : Char.ofNat 0 ∉ p.text.toList) (hne : p.isEmpty = false)
    (hlen : p.text.utf8ByteSize ≤ maxPathLength) : route p = .ok (Path.parts p.text.toList) := by
  unfold route
  rw [if_neg (by simpa using hnul), if_neg (by simp [hne]), if_neg (Nat.not_lt.2 hlen)]

theorem of_route_eq_ok {p : Path} {ps : List (List Char)} (h : route p = .ok ps) :
    Char.ofNat 0 ∉ p.text.toList ∧ p.text.utf8ByteSize ≤ maxPathLength ∧
      ps = Path.parts p.text.toList := by
  unfold route at h
  split at h
  · cases h
  · rename_i hnul
    split at h
    · cases h
    · split at h
      · cases h
      · rename_i hlen
        exact ⟨by simpa using hnul, Nat.le_of_not_lt hlen, (Except.ok.inj h).symm⟩

theorem route_eq_error {p : Path} (hlen : maxPathLength < p.text.utf8ByteSize) :
    ∃ f, route p = .error f := by
  unfold route
  rw [if_pos hlen]
  split
  · exact ⟨_, rfl⟩
  · split
    · exact ⟨_, rfl⟩
    · exact ⟨_, rfl⟩

theorem of_list_eq_ok {t : FileTree} {p : Path} {es : List (String × FileTree)}
    (h : t.list p = .ok es) :
    Char.ofNat 0 ∉ p.text.toList ∧ walk [] t p.steps = .ok (directory es) := by
  unfold list resolve at h
  cases hr : route p with
  | error f => rw [hr] at h; cases h
  | ok ps =>
    rw [hr] at h
    obtain ⟨hnul, -, rfl⟩ := of_route_eq_ok hr
    refine ⟨hnul, walk_filter_leads.2 ?_⟩
    dsimp only at h
    cases hw : walk [] t (Path.parts p.text.toList) with
    | error f => rw [hw] at h; cases h
    | ok u =>
      rw [hw] at h
      cases u with
      | file b => cases h
      | directory ds => rw [Except.ok.inj h]

theorem list_eq_ok {t : FileTree} {p : Path} {es : List (String × FileTree)}
    (hnul : Char.ofNat 0 ∉ p.text.toList) (hne : p.isEmpty = false)
    (hlen : p.text.utf8ByteSize ≤ maxPathLength) (h : walk [] t p.steps = .ok (directory es)) :
    t.list p = .ok es := by
  have hwalk : walk [] t (Path.parts p.text.toList) = .ok (directory es) := walk_filter_leads.1 h
  rw [list, resolve, route_eq_ok hnul hne hlen]
  dsimp only
  rw [hwalk]

/-- **The directory of an entry can be listed**, if the path of the entry leads somewhere. -/
theorem exists_list_of_resolve_join {t u : FileTree} {dir : Path} (hdir : dir.isEmpty = false)
    {n : String} (hn : IsName n) (h : t.resolve (dir.join n) = .ok u) :
    ∃ es, t.list dir = .ok es ∧ (dir.join n).text.utf8ByteSize ≤ maxPathLength := by
  unfold resolve at h
  cases hr : route (dir.join n) with
  | error f => rw [hr] at h; cases h
  | ok qs =>
    rw [hr] at h
    obtain ⟨hnul, hlen, rfl⟩ := of_route_eq_ok hr
    obtain ⟨ps, hps, hsteps⟩ := Path.exists_parts_join dir hn.isStep
    dsimp only at h
    rw [hps] at h
    obtain ⟨es, hes⟩ := exists_directory_of_walk_append h
    have hnot : Char.ofNat 0 ∉ dir.text.toList := by
      rw [Path.toList_join hn.isStep.head?_ne, List.mem_append, List.mem_append, not_or, not_or] at hnul
      exact hnul.1.1
    have hshort : dir.text.utf8ByteSize ≤ maxPathLength :=
      Nat.le_trans (dir.utf8ByteSize_le_join hn.isStep.head?_ne) hlen
    refine ⟨es, list_eq_ok hnot hdir hshort ?_, hlen⟩
    rw [← hsteps]
    exact walk_filter_leads.2 hes

/-- The path leads to a directory with these entries. -/
structure Lists (t : FileTree) (dir : Path) (es : List (String × FileTree)) : Prop where
  list_eq : t.list dir = .ok es
  legal : LegalEntries es

namespace Lists

variable {t : FileTree} {dir : Path} {es : List (String × FileTree)} (h : t.Lists dir es)

include h

/-- **The path of an entry** leads to it. -/
theorem resolve_join {n : String} (hn : IsName n)
    (hlen : (dir.join n).text.utf8ByteSize ≤ maxPathLength) :
    t.resolve (dir.join n) =
      match lookup n es with
      | none => .error .notFound
      | some u => .ok u := by
  obtain ⟨hdir, hwalk⟩ := of_list_eq_ok h.list_eq
  have hnul : Char.ofNat 0 ∉ (dir.join n).text.toList := by
    intro hc
    rcases Path.eq_or_mem_of_mem_join hc with hc | hc | hc
    · exact absurd hc (by decide)
    · exact hdir hc
    · exact hn.plain hc
  have hne : (dir.join n).isEmpty = false := Path.isEmpty_join hn.isStep
  obtain ⟨ps, hps, hsteps⟩ := Path.exists_parts_join dir hn.isStep
  rw [resolve, route_eq_ok hnul hne hlen, hps]
  refine walk_append_name ?_ hn
  rw [← walk_filter_leads, hsteps]
  exact hwalk

theorem resolve_join_of_mem {n : String} {u : FileTree} (hu : (n, u) ∈ es)
    (hlen : (dir.join n).text.utf8ByteSize ≤ maxPathLength) : t.resolve (dir.join n) = .ok u := by
  rw [h.resolve_join (h.legal.isName _ hu) hlen, lookup_of_mem h.legal.nodup hu]

/-- **A file among the entries** is read by its path. -/
theorem read_join {n : String} {b : List UInt8} (hu : (n, file b) ∈ es)
    (hlen : (dir.join n).text.utf8ByteSize ≤ maxPathLength) : t.read (dir.join n) = .ok b := by
  rw [read, h.resolve_join_of_mem hu hlen]

theorem contains_join {n : String} {u : FileTree} (hu : (n, u) ∈ es)
    (hlen : (dir.join n).text.utf8ByteSize ≤ maxPathLength) : t.contains (dir.join n) = true := by
  rw [contains, h.resolve_join_of_mem hu hlen]
  rfl

/-- What the path of a name leads to is the entry of this name. -/
theorem mem_of_resolve_join {n : String} (hn : IsName n) {u : FileTree}
    (hu : t.resolve (dir.join n) = .ok u) :
    (n, u) ∈ es ∧ (dir.join n).text.utf8ByteSize ≤ maxPathLength := by
  by_cases hlen : (dir.join n).text.utf8ByteSize ≤ maxPathLength
  · rw [h.resolve_join hn hlen] at hu
    cases hl : lookup n es with
    | none => rw [hl] at hu; cases hu
    | some v =>
      rw [hl] at hu
      rw [← Except.ok.inj hu]
      exact ⟨mem_of_lookup hl, hlen⟩
  · obtain ⟨f, hf⟩ := route_eq_error (Nat.lt_of_not_le hlen)
    rw [resolve, hf] at hu
    cases hu

/-- **The path of a name leads to a file** if there is one of this name, and if the path is not too
long. -/
theorem isFile_join_iff {n : String} (hn : IsName n) :
    t.isFile (dir.join n) = true ↔
      (∃ b, (n, file b) ∈ es) ∧ (dir.join n).text.utf8ByteSize ≤ maxPathLength := by
  constructor
  · intro hf
    rw [isFile] at hf
    split at hf
    · rename_i b hb
      obtain ⟨hmem, hlen⟩ := h.mem_of_resolve_join hn hb
      exact ⟨⟨b, hmem⟩, hlen⟩
    · cases hf
  · rintro ⟨⟨b, hb⟩, hlen⟩
    rw [isFile, h.resolve_join_of_mem hb hlen]

/-- No directory is found under a name that no directory among the entries has. -/
theorem isDirectory_join_eq_false {n : String} (hn : IsName n)
    (hu : ∀ ds, (n, directory ds) ∉ es) : t.isDirectory (dir.join n) = false := by
  rw [Bool.eq_false_iff]
  intro hd
  rw [isDirectory] at hd
  split at hd
  · rename_i ds hds
    exact hu ds (h.mem_of_resolve_join hn hds).1
  · cases hd

end Lists

/-- The path leads to a directory with these entries, and `r` is its absolute form. -/
structure DirectoryAt (t : FileTree) (root r : Path) (es : List (String × FileTree)) : Prop where
  absolute?_eq : root.absolute? = some r
  list_eq : t.list root = .ok es
  legal : LegalEntries es

namespace DirectoryAt

variable {t : FileTree} {root r : Path} {es : List (String × FileTree)} (h : t.DirectoryAt root r es)

include h

theorem notMem : Char.ofNat 0 ∉ r.text.toList := by
  intro hc
  rcases Path.eq_or_mem_of_mem_absolute? h.absolute?_eq hc with hc | hc
  · exact absurd hc (by decide)
  · exact (of_list_eq_ok h.list_eq).1 hc

/-- **A directory is listed by the absolute form of its path** as well. -/
theorem lists_absolute? (hlen : r.text.utf8ByteSize ≤ maxPathLength) : t.Lists r es := by
  have hne := (Path.rooted_absolute? h.absolute?_eq).isEmpty_eq_false
  refine ⟨list_eq_ok h.notMem hne hlen ?_, h.legal⟩
  rw [Path.steps_absolute? h.absolute?_eq]
  exact (of_list_eq_ok h.list_eq).2

/-- A path that is not too long with a name behind it. -/
theorem lists_of_join {n : String} (hn : IsName n)
    (hlen : (r.join n).text.utf8ByteSize ≤ maxPathLength) : t.Lists r es :=
  h.lists_absolute? (Nat.le_trans (r.utf8ByteSize_le_join hn.isStep.head?_ne) hlen)

end DirectoryAt

end ArchivalBag.FileTree

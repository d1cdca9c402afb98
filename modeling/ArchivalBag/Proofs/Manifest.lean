import ArchivalBag.Manifest
import ArchivalBag.Proofs.Lists

/-!
# Manifests by paths

A manifest is known by the entry of each path, and a path is known by its components. Given one after
the other, checksums of paths leave one entry per path: with the first spelling of the path and its
last checksum, in the order of the paths.

* `entryOf?_insert`: what one more checksum does to the entry of each path.
* `mem_entries_iff`: the entries are those of their paths.
* `ext_entryOf?`: the entries of all paths make up the manifest.
* `ofList_entries`: the entries of a manifest leave it.
* `Manifest.insertAll`: further checksums; `map_fst_entryOf?_insertAll`, `map_snd_entryOf?_insertAll`:
  what the entries of another manifest do to the entry of each path.
* `Manifest.Records`: what a list of checksums leaves; `records_ofList`: it does.
-/

namespace ArchivalBag

namespace Path

theorem Same.refl (p : Path) : p.Same p := rfl

end Path

/-! ### The entry of a path -/

theorem Entries.ne_of_ascending {x : Path × String} {l : List (Path × String)}
    (h : Entries.Ascending (x :: l)) {e : Path × String} (he : e ∈ l) : x.1.key ≠ e.1.key := by
  intro hk
  have hlt := (List.pairwise_cons.1 h).1 e he
  rw [hk] at hlt
  exact List.lt_irrefl _ hlt

/-- The entry found for a key once a checksum has been set. -/
theorem Entries.find?_insertAt {l : List (Path × String)} (h : Entries.Ascending l) (p : Path)
    (c : String) (k : List (List ℕ)) :
    (Entries.insertAt p.key p c l).find? (fun e => e.1.key = k) =
      if p.key = k then some (((l.find? fun e => e.1.key = k).map Prod.fst).getD p, c)
      else l.find? fun e => e.1.key = k := by
  induction l with
  | nil =>
    by_cases hk : p.key = k <;> simp [Entries.insertAt, hk]
  | cons x l ih =>
    rw [Entries.insertAt]
    split
    · rename_i hx
      by_cases hk : p.key = k
      · have hxk : x.1.key = k := by rw [← hx, hk]
        simp [hk, hxk]
      · have hxk : ¬ x.1.key = k := by rw [← hx]; exact hk
        simp [hk, hxk]
    · rename_i hne
      split
      · rename_i hlt
        by_cases hk : p.key = k
        · -- all other keys are above that of `p`
          have hnone : (x :: l).find? (fun e => e.1.key = k) = none := by
            rw [List.find?_eq_none]
            intro e he hek
            rw [decide_eq_true_eq] at hek
            have hlt' : p.key < e.1.key := by
              rcases List.mem_cons.1 he with rfl | he
              · exact hlt
              · exact List.lt_trans hlt ((List.pairwise_cons.1 h).1 e he)
            rw [hek, ← hk] at hlt'
            exact List.lt_irrefl _ hlt'
          rw [if_pos hk, hnone]
          simp [hk]
        · rw [if_neg hk, List.find?_cons_of_neg (by simpa using hk)]
      · have ih := ih (List.pairwise_cons.1 h).2
        by_cases hxk : x.1.key = k
        · have hk : ¬ p.key = k := fun hk => hne (by rw [hk, hxk])
          rw [if_neg hk, List.find?_cons_of_pos (by simpa using hxk),
            List.find?_cons_of_pos (by simpa using hxk)]
        · rw [List.find?_cons_of_neg (by simpa using hxk), ih,
            List.find?_cons_of_neg (by simpa using hxk)]

theorem Entries.find?_of_mem {l : List (Path × String)} (h : Entries.Ascending l)
    {e : Path × String} (he : e ∈ l) : l.find? (fun x => x.1.key = e.1.key) = some e := by
  induction l with
  | nil => cases he
  | cons x l ih =>
    rcases List.mem_cons.1 he with rfl | he
    · simp
    · have hne := Entries.ne_of_ascending h he
      rw [List.find?_cons_of_neg (by simpa using hne)]
      exact ih (List.pairwise_cons.1 h).2 he

/-- A path behind all others gets the last entry. -/
theorem Entries.insertAt_of_forall_lt {p : Path} {l : List (Path × String)}
    (h : ∀ e ∈ l, e.1.key < p.key) (c : String) : Entries.insertAt p.key p c l = l ++ [(p, c)] := by
  induction l with
  | nil => rfl
  | cons x l ih =>
    have hx : x.1.key < p.key := h x List.mem_cons_self
    have hne : p.key ≠ x.1.key := by
      intro he
      rw [he] at hx
      exact List.lt_irrefl _ hx
    have hlt : ¬ p.key < x.1.key := List.lt_asymm hx
    rw [Entries.insertAt, if_neg hne, if_neg hlt, ih fun e he => h e (List.mem_cons_of_mem x he)]
    rfl

namespace Manifest

/-- The entry of a path, as the manifest spells it. -/
def entryOf? (m : Manifest) (q : Path) : Option (Path × String) :=
  m.entries.find? fun e => e.1.key = q.key

theorem checksum?_eq (m : Manifest) (q : Path) : m.checksum? q = (m.entryOf? q).map Prod.snd :=
  rfl

theorem entryOf?_congr (m : Manifest) {p q : Path} (h : p.Same q) : m.entryOf? p = m.entryOf? q := by
  rw [entryOf?, entryOf?, Path.key_eq_iff.2 h]

theorem same_of_entryOf? {m : Manifest} {q : Path} {e : Path × String} (h : m.entryOf? q = some e) :
    e.1.Same q := by
  have := List.find?_some h
  exact Path.key_eq_iff.1 (of_decide_eq_true this)

/-- **The entries are those of their paths.** -/
theorem mem_entries_iff {m : Manifest} {e : Path × String} :
    e ∈ m.entries ↔ m.entryOf? e.1 = some e :=
  ⟨Entries.find?_of_mem m.ascending, List.mem_of_find?_eq_some⟩

/-- **One more checksum** leaves the spelling of a path that is there already. -/
theorem entryOf?_insert (m : Manifest) (p q : Path) (c : String) :
    (m.insert p c).entryOf? q =
      if p.Same q then some (((m.entryOf? q).map Prod.fst).getD p, c) else m.entryOf? q := by
  rw [entryOf?, insert, Entries.find?_insertAt m.ascending]
  simp only [entryOf?, Path.key_eq_iff]

theorem eq_of_entries {m n : Manifest} (ha : m.algorithm = n.algorithm)
    (h : m.entries = n.entries) : m = n := by
  cases m; cases n; cases ha; cases h; rfl

/-- **The entries of all paths make up the manifest.** -/
theorem ext_entryOf? {m n : Manifest} (ha : m.algorithm = n.algorithm)
    (h : ∀ q, m.entryOf? q = n.entryOf? q) : m = n := by
  have hmem : ∀ e, e ∈ m.entries ↔ e ∈ n.entries := by
    intro e
    rw [mem_entries_iff, mem_entries_iff, h]
  have hnodup : ∀ k : Manifest, k.entries.Nodup := fun k =>
    k.ascending.imp fun {d e} hlt heq => by
      rw [heq] at hlt
      exact List.lt_irrefl _ hlt
  have hperm : m.entries.Perm n.entries :=
    (List.perm_ext_iff_of_nodup (hnodup m) (hnodup n)).2 hmem
  -- both lists stand in the order of the paths, and no two members of a list have the same path
  exact eq_of_entries ha (hperm.eq_of_pairwise
    (fun d e _ _ hde hed => absurd hed (List.lt_asymm hde)) m.ascending n.ascending)

/-! ### Checksums given one after the other -/

theorem ofList_append_singleton (a : String) (given : List (Path × String)) (x : Path × String) :
    ofList a (given ++ [x]) = (ofList a given).insert x.1 x.2 := by
  rw [ofList, List.foldl_append]; rfl

/-- **The spelling is the first one.** -/
theorem map_fst_entryOf?_ofList (a : String) (given : List (Path × String)) (q : Path) :
    ((ofList a given).entryOf? q).map Prod.fst =
      (given.find? fun x => x.1.Same q).map Prod.fst := by
  induction given using List.reverseRecOn with
  | nil => rfl
  | append_singleton given x ih =>
    rw [ofList_append_singleton, entryOf?_insert, List.find?_append]
    by_cases h : x.1.Same q
    · rw [if_pos h, Option.map_some, ih, List.find?_cons_of_pos (by simpa using h)]
      cases given.find? fun x => x.1.Same q <;> rfl
    · rw [if_neg h, ih, List.find?_cons_of_neg (by simpa using h), List.find?_nil, Option.or_none]

/-- **The checksum is the last one.** -/
theorem map_snd_entryOf?_ofList (a : String) (given : List (Path × String)) (q : Path) :
    ((ofList a given).entryOf? q).map Prod.snd =
      ((given.filter fun x => x.1.Same q).getLast?).map Prod.snd := by
  induction given using List.reverseRecOn with
  | nil => rfl
  | append_singleton given x ih =>
    rw [ofList_append_singleton, entryOf?_insert, List.filter_append]
    by_cases h : x.1.Same q
    · rw [if_pos h]; simp [h]
    · rw [if_neg h, ih]; simp [h]

theorem algorithm_ofList (a : String) (given : List (Path × String)) :
    (ofList a given).algorithm = a := by
  induction given using List.reverseRecOn with
  | nil => rfl
  | append_singleton given x ih => rw [ofList_append_singleton]; exact ih

/-- **Paths in their order** are kept as they are. -/
theorem entries_ofList (a : String) {given : List (Path × String)} (h : Entries.Ascending given) :
    (ofList a given).entries = given := by
  induction given using List.reverseRecOn with
  | nil => rfl
  | append_singleton given x ih =>
    obtain ⟨hgiven, -, hlt⟩ := List.pairwise_append.1 h
    have hx : ∀ e ∈ given, e.1.key < x.1.key := fun e he => hlt e he x (List.mem_singleton_self x)
    rw [ofList_append_singleton]
    show Entries.insertAt x.1.key x.1 x.2 (ofList a given).entries = given ++ [x]
    rw [ih hgiven, Entries.insertAt_of_forall_lt hx]

theorem ofList_entries (m : Manifest) : ofList m.algorithm m.entries = m :=
  eq_of_entries (algorithm_ofList _ _) (entries_ofList m.algorithm m.ascending)

/-! ### More checksums -/

/-- The manifest with further checksums, given one after the other. -/
def insertAll (m : Manifest) (given : List (Path × String)) : Manifest :=
  given.foldl (fun m (p, c) => m.insert p c) m

theorem insertAll_eq_ofList (m : Manifest) (given : List (Path × String)) :
    m.insertAll given = ofList m.algorithm (m.entries ++ given) := by
  rw [ofList, List.foldl_append]
  show m.insertAll given = (ofList m.algorithm m.entries).insertAll given
  rw [ofList_entries]

theorem algorithm_insertAll (m : Manifest) (given : List (Path × String)) :
    (m.insertAll given).algorithm = m.algorithm := by
  rw [insertAll_eq_ofList, algorithm_ofList]

/-- **The old spelling counts** if there is one. -/
theorem map_fst_entryOf?_insertAll (m m' : Manifest) (q : Path) :
    ((m.insertAll m'.entries).entryOf? q).map Prod.fst =
      ((m.entryOf? q).or (m'.entryOf? q)).map Prod.fst := by
  have hm := map_fst_entryOf?_ofList m.algorithm m.entries q
  have hm' := map_fst_entryOf?_ofList m'.algorithm m'.entries q
  rw [ofList_entries] at hm hm'
  rw [insertAll_eq_ofList, map_fst_entryOf?_ofList, List.find?_append, Option.map_or, Option.map_or,
    hm, hm']

/-- **The new checksum counts** if there is one. -/
theorem map_snd_entryOf?_insertAll (m m' : Manifest) (q : Path) :
    ((m.insertAll m'.entries).entryOf? q).map Prod.snd =
      ((m'.entryOf? q).or (m.entryOf? q)).map Prod.snd := by
  have hm := map_snd_entryOf?_ofList m.algorithm m.entries q
  have hm' := map_snd_entryOf?_ofList m'.algorithm m'.entries q
  rw [ofList_entries] at hm hm'
  rw [insertAll_eq_ofList, map_snd_entryOf?_ofList, List.filter_append, List.getLast?_append,
    Option.map_or, Option.map_or, hm, hm']

theorem insertAll_insert (m m' : Manifest) (p : Path) (c : String) :
    m.insertAll (m'.insert p c).entries = (m.insertAll m'.entries).insert p c := by
  refine ext_entryOf? ?_ fun q => eq_of_map_fst_snd ?_ ?_
  · rw [algorithm_insertAll]
    exact (algorithm_insertAll m m'.entries).symm
  · rw [map_fst_entryOf?_insertAll, entryOf?_insert, entryOf?_insert]
    split
    · rw [map_fst_entryOf?_insertAll]
      cases m.entryOf? q <;> rfl
    · exact (map_fst_entryOf?_insertAll m m' q).symm
  · rw [map_snd_entryOf?_insertAll, entryOf?_insert, entryOf?_insert]
    split
    · rfl
    · exact (map_snd_entryOf?_insertAll m m' q).symm

/-! ### What checksums amount to -/

/-- What is left of checksums of paths that were given one after the other. -/
structure Records (m : Manifest) (given : List (Path × String)) : Prop where
  /-- The entries are for paths that were given, spelled in that way. -/
  exists_given : ∀ e ∈ m.entries, ∃ x ∈ given, e.1 = x.1
  /-- A path has its last checksum, and none if it was not given. -/
  checksum : ∀ q, m.checksum? q = ((given.filter fun x => x.1.Same q).getLast?).map Prod.snd
  /-- The entries stand in the order of the paths. -/
  ascending : m.entries.Pairwise fun d e => d.1.key < e.1.key
  /-- Each path that was given has one entry. -/
  existsUnique : ∀ x ∈ given, ∃! e, e ∈ m.entries ∧ e.1.Same x.1
  /-- A path is spelled as it was first. -/
  spelling : ∀ e ∈ m.entries, (given.find? fun x => x.1.Same e.1).map Prod.fst = some e.1
  /-- There are as many entries as different paths. -/
  size : m.size = (given.map fun x => x.1.components).eraseDups.length

theorem spelling_ofList {a : String} {given : List (Path × String)} {e : Path × String}
    (he : e ∈ (ofList a given).entries) :
    (given.find? fun x => x.1.Same e.1).map Prod.fst = some e.1 := by
  rw [← map_fst_entryOf?_ofList a, mem_entries_iff.1 he]; rfl

theorem exists_entry_ofList {a : String} {given : List (Path × String)} {x : Path × String}
    (hx : x ∈ given) : ∃ e, (ofList a given).entryOf? x.1 = some e := by
  have hfound : ((given.find? fun y => y.1.Same x.1).map Prod.fst).isSome = true := by
    rw [Option.isSome_map, List.find?_isSome]
    exact ⟨x, hx, by simpa using Path.Same.refl x.1⟩
  rw [← map_fst_entryOf?_ofList a, Option.isSome_map] at hfound
  exact Option.isSome_iff_exists.1 hfound

theorem existsUnique_ofList {a : String} {given : List (Path × String)} {x : Path × String}
    (hx : x ∈ given) : ∃! e, e ∈ (ofList a given).entries ∧ e.1.Same x.1 := by
  obtain ⟨e, he⟩ := exists_entry_ofList (a := a) hx
  refine ⟨e, ⟨List.mem_of_find?_eq_some he, same_of_entryOf? he⟩, fun e' ⟨hmem, hsame⟩ => ?_⟩
  have he' := mem_entries_iff.1 hmem
  rw [entryOf?_congr _ hsame, he] at he'
  exact (Option.some.inj he').symm

theorem size_ofList (a : String) (given : List (Path × String)) :
    (ofList a given).size = (given.map fun x => x.1.components).eraseDups.length := by
  rw [size, ← List.length_map (f := fun e : Path × String => e.1.components)]
  refine length_eq_of_mem_iff ?_ (nodup_eraseDups _) fun cs => ?_
  · refine List.Nodup.map_on (fun e he e' he' h => ?_) ?_
    · have h₁ := mem_entries_iff.1 he
      rw [entryOf?_congr _ h, mem_entries_iff.1 he'] at h₁
      exact (Option.some.inj h₁).symm
    · exact (ofList a given).ascending.imp fun hlt heq => by
        rw [heq] at hlt
        exact List.lt_irrefl _ hlt
  · rw [List.mem_eraseDups, List.mem_map, List.mem_map]
    constructor
    · rintro ⟨e, he, rfl⟩
      obtain ⟨x, hx, heq⟩ := Option.map_eq_some_iff.1 (spelling_ofList he)
      exact ⟨x, List.mem_of_find?_eq_some hx, by rw [heq]⟩
    · rintro ⟨x, hx, rfl⟩
      obtain ⟨e, he⟩ := exists_entry_ofList (a := a) hx
      exact ⟨e, List.mem_of_find?_eq_some he, same_of_entryOf? he⟩

/-- **The last checksum wins, under the first spelling.** -/
theorem records_ofList (a : String) (given : List (Path × String)) :
    (ofList a given).Records given where
  exists_given e he := by
    obtain ⟨x, hx, heq⟩ := Option.map_eq_some_iff.1 (spelling_ofList he)
    exact ⟨x, List.mem_of_find?_eq_some hx, heq.symm⟩
  checksum q := by rw [checksum?_eq, map_snd_entryOf?_ofList]
  ascending := (ofList a given).ascending
  existsUnique _ hx := existsUnique_ofList hx
  spelling _ he := spelling_ofList he
  size := size_ofList a given

end Manifest

end ArchivalBag

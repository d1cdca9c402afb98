import ArchivalBag.Proofs.FileTree.Finding
import ArchivalBag.Proofs.Path.Lexical

/-!
# Files that are written

Writing a file changes what is at one place, where a place is a list of names from the root of the tree.
A path is followed from place to place, and only directories can be passed on the way; so what a path
leads to is known once it is known what is at each place.

* `findAt`: what is at a place; `search`, `find_eq_search`: a path is followed through the places.
* `IsWritable`, `store_eq_ok_iff`: the paths to which a file can be written.
* `IsWritable.findAt_write`: what is at each place after a file was written.
* `IsWritable.read_write`: the file is read back; `IsWritable.find_write_of_ne`: elsewhere nothing has
  changed, and nowhere if the file was there before (`IsWritable.find_write_of_find`).
-/

namespace ArchivalBag.FileTree

/-! ### Places -/

/-- What a node is. -/
def Finding.ofTree : FileTree → Finding
  | .file b => .file b
  | .directory _ => .directory

/-- What the node at the end of a walk is, if there is one. -/
def Finding.ofWalk : Except FileFault FileTree → Finding
  | .error _ => .absent
  | .ok u => .ofTree u

/-- The node at a place. -/
def nodeAt : FileTree → List String → Option FileTree
  | t, [] => some t
  | file _, _ :: _ => none
  | directory es, n :: ns => (lookup n es).bind fun u => nodeAt u ns

/-- What is at a place. -/
def findAt (t : FileTree) (ns : List String) : Finding :=
  ((nodeAt t ns).map Finding.ofTree).getD .absent

theorem nodeAt_append_singleton (t : FileTree) (ns : List String) (n : String) :
    nodeAt t (ns ++ [n]) = (nodeAt t ns).bind fun u => nodeAt u [n] := by
  induction ns generalizing t with
  | nil => rfl
  | cons m ns ih =>
    cases t with
    | file b => rfl
    | directory es =>
      rw [List.cons_append, nodeAt, nodeAt, Option.bind_assoc]
      exact Option.bind_congr fun u _ => ih u

theorem nodeAt_directory_singleton (es : List (String × FileTree)) (n : String) :
    nodeAt (directory es) [n] = lookup n es := by
  rw [nodeAt]
  exact Option.bind_fun_some _

/-! ### Paths from place to place -/

/-- The place behind one more part of a path. The names of a place are kept from the last one on. -/
def advance (acc : List String) (p : List Char) : List String :=
  match Path.Component.ofPart? p with
  | none => acc
  | some c => Path.enter acc c

/-- The place that is reached from another one along the parts of a path. -/
def placeAfter (acc : List String) (ps : List (List Char)) : List String :=
  ps.foldl advance acc

/-- What a path leads to from a place, if `f` is what there is at each place: there have to be
directories on the way, and no name can be too long. -/
def search (f : List String → Finding) (acc : List String) : List (List Char) → Finding
  | [] => f acc.reverse
  | p :: ps =>
    if f acc.reverse = .directory ∧ (String.ofList p).utf8ByteSize ≤ maxNameLength then
      search f (advance acc p) ps
    else .absent

theorem advance_of_name {p : List Char} (hp : ¬ (p = [] ∨ p = ['.'])) (hpp : p ≠ ['.', '.'])
    (acc : List String) : advance acc p = String.ofList p :: acc := by
  unfold advance Path.Component.ofPart?
  rw [not_or] at hp
  split
  · rename_i h
    split at h
    · exact absurd rfl hp.1
    · exact absurd rfl hp.2
    · cases h
    · cases h
  · rename_i c h
    split at h
    · cases h
    · cases h
    · exact absurd rfl hpp
    · rw [← Option.some.inj h]
      rfl

/-- The state of a walk: the place, the directories above it, and the node there. -/
inductive Located (t : FileTree) : List String → List FileTree → FileTree → Prop
  | root : Located t [] [] t
  | entry {acc : List String} {above : List FileTree} {es : List (String × FileTree)} {n : String}
      {u : FileTree} (h : Located t acc above (directory es)) (hu : lookup n es = some u) :
      Located t (n :: acc) (directory es :: above) u

theorem Located.nodeAt_eq {t here : FileTree} {acc : List String} {above : List FileTree}
    (h : Located t acc above here) : nodeAt t acc.reverse = some here := by
  induction h with
  | root => rfl
  | entry _ hu ih =>
    rw [List.reverse_cons, nodeAt_append_singleton, ih, Option.bind_some, nodeAt_directory_singleton, hu]

theorem search_of_absent {f : List String → Finding} {acc : List String}
    (h : f acc.reverse = .absent) (ps : List (List Char)) : search f acc ps = .absent := by
  cases ps with
  | nil => exact h
  | cons p ps =>
    rw [search, h, if_neg]
    rintro ⟨hd, -⟩
    cases hd

/-- **A walk goes from place to place.** -/
theorem Located.ofWalk_eq {t here : FileTree} {acc : List String} {above : List FileTree}
    (h : Located t acc above here) (ps : List (List Char)) :
    Finding.ofWalk (walk above here ps) = search (findAt t) acc ps := by
  induction ps generalizing acc above here with
  | nil =>
    rw [search, findAt, h.nodeAt_eq]
    rfl
  | cons p ps ih =>
    have hhere : findAt t acc.reverse = Finding.ofTree here := by
      rw [findAt, h.nodeAt_eq]
      rfl
    rw [search, hhere]
    cases here with
    | file b =>
      rw [if_neg]
      · rfl
      · rintro ⟨hd, -⟩
        cases hd
    | directory es =>
      rw [walk_directory_cons]
      by_cases hp : p = [] ∨ p = ['.']
      · have hadvance : advance acc p = acc := by rcases hp with rfl | rfl <;> rfl
        have hshort : (String.ofList p).utf8ByteSize ≤ maxNameLength := by
          rcases hp with rfl | rfl <;> decide
        rw [if_pos hp, if_pos ⟨rfl, hshort⟩, hadvance]
        exact ih h
      by_cases hpp : p = ['.', '.']
      · subst hpp
        rw [if_neg hp, if_pos rfl, if_pos ⟨rfl, by decide⟩]
        cases h with
        | root => exact ih .root
        | entry h _ => exact ih h
      rw [if_neg hp, if_neg hpp, advance_of_name hp hpp]
      by_cases hlong : maxNameLength < (String.ofList p).utf8ByteSize
      · rw [if_pos hlong, if_neg fun h => Nat.not_le.2 hlong h.2]
        rfl
      rw [if_neg hlong, if_pos ⟨rfl, Nat.le_of_not_lt hlong⟩]
      cases hl : lookup (String.ofList p) es with
      | none =>
        refine (search_of_absent ?_ ps).symm
        rw [List.reverse_cons, findAt, nodeAt_append_singleton, h.nodeAt_eq, Option.bind_some,
          nodeAt_directory_singleton, hl]
        rfl
      | some u => exact ih (.entry h hl)

/-- **What a path leads to** is known from what is at each place. -/
theorem find_eq_search (t : FileTree) {p : Path} {ps : List (List Char)} (h : route p = .ok ps) :
    t.find p = search (findAt t) [] ps := by
  rw [← Located.root.ofWalk_eq ps, find, resolve, h]
  dsimp only
  cases walk [] t ps with
  | error f => rfl
  | ok u => cases u <;> rfl

theorem find_congr {t t' : FileTree} {q : Path}
    (h : ∀ ps, route q = .ok ps → search (findAt t') [] ps = search (findAt t) [] ps) :
    t'.find q = t.find q := by
  cases hr : route q with
  | error f => rw [find, find, resolve, resolve, hr]
  | ok ps => rw [find_eq_search _ hr, find_eq_search _ hr, h ps hr]

theorem names_eq_placeAfter {p : Path} {ps : List (List Char)} (h : route p = .ok ps) :
    names p = (placeAfter [] ps).reverse := by
  obtain ⟨-, -, rfl⟩ := of_route_eq_ok h
  rw [Path.names_eq, Path.innerComponents, List.foldl_filterMap]
  congr 2
  funext acc p
  unfold advance
  cases Path.Component.ofPart? p <;> rfl

theorem IsName.advance_eq {n : String} (hn : IsName n) (acc : List String) :
    advance acc n.toList = n :: acc := by
  have hp : ¬ (n.toList = [] ∨ n.toList = ['.']) := not_or.2 ⟨hn.isStep.ne_nil, hn.isStep.ne_dot⟩
  have hpp : n.toList ≠ ['.', '.'] := fun h => hn.ne_parent (String.toList_inj.1 h)
  rw [advance_of_name hp hpp, String.ofList_toList]

theorem placeAfter_append_name (acc : List String) (ps : List (List Char)) {n : String} (hn : IsName n) :
    placeAfter acc (ps ++ [n.toList]) = n :: placeAfter acc ps := by
  rw [placeAfter, List.foldl_append, List.foldl_cons, List.foldl_nil, hn.advance_eq]
  rfl

section Search

variable {f : List String → Finding} {acc : List String} {ps : List (List Char)}

/-- A directory that is found is at the place where the path ends. -/
theorem findAt_of_search (h : search f acc ps = .directory) :
    f (placeAfter acc ps).reverse = .directory := by
  induction ps generalizing acc with
  | nil => exact h
  | cons p ps ih =>
    rw [search] at h
    split at h
    · exact ih h
    · cases h

/-- A name behind a directory. -/
theorem search_append_name (h : search f acc ps = .directory) {n : String} (hn : IsName n) :
    search f acc (ps ++ [n.toList]) = f (n :: placeAfter acc ps).reverse := by
  induction ps generalizing acc with
  | nil =>
    rw [search] at h
    rw [List.nil_append, search, String.ofList_toList, if_pos ⟨h, hn.short⟩, hn.advance_eq]
    rfl
  | cons p ps ih =>
    rw [search] at h
    rw [List.cons_append, search]
    split at h
    · rw [if_pos ‹_›]
      exact ih h
    · cases h

/-- **A path that does not end at a place** leads where it led before, if there was no directory at
this place and is none now, since then the place cannot be passed on the way. -/
theorem search_congr {g : List String → Finding} {place : List String}
    (hg : ∀ ns, ns ≠ place → g ns = f ns) (hf : f place ≠ .directory) (hg' : g place ≠ .directory)
    (h : (placeAfter acc ps).reverse ≠ place) : search g acc ps = search f acc ps := by
  induction ps generalizing acc with
  | nil => exact hg _ h
  | cons p ps ih =>
    rw [search, search]
    by_cases hacc : acc.reverse = place
    · rw [hacc, if_neg fun h => hg' h.1, if_neg fun h => hf h.1]
    · rw [hg _ hacc, ih h]

end Search

/-! ### Changed trees -/

theorem lookup_putEntry (n : String) (u : FileTree) (es : List (String × FileTree)) (m : String) :
    lookup m (putEntry n u es) = if m = n then some u else lookup m es := by
  induction es with
  | nil =>
    rw [putEntry, lookup, lookup]
    by_cases hm : n = m
    · rw [if_pos hm, if_pos hm.symm]
    · rw [if_neg hm, if_neg (Ne.symm hm), lookup]
  | cons e es ih =>
    obtain ⟨k, v⟩ := e
    rw [putEntry]
    by_cases hk : k = n
    · rw [if_pos hk, lookup, lookup]
      by_cases hm : k = m
      · rw [if_pos hm, if_pos (hm.symm.trans hk)]
      · rw [if_neg hm, if_neg hm, if_neg fun h => hm (hk.trans h.symm)]
    · rw [if_neg hk, lookup, lookup, ih]
      by_cases hm : k = m
      · rw [if_pos hm, if_pos hm, if_neg fun h => hk (hm.trans h)]
      · rw [if_neg hm, if_neg hm]

theorem findAt_directory_cons (es : List (String × FileTree)) (n : String) (ns : List String) :
    findAt (directory es) (n :: ns) = ((lookup n es).map fun u => findAt u ns).getD .absent := by
  rw [findAt, nodeAt]
  cases lookup n es <;> rfl

theorem findAt_putEntry (n : String) (u : FileTree) (es : List (String × FileTree)) (m : String)
    (ms : List String) :
    findAt (directory (putEntry n u es)) (m :: ms) =
      if m = n then findAt u ms else findAt (directory es) (m :: ms) := by
  rw [findAt_directory_cons, findAt_directory_cons, lookup_putEntry]
  split <;> rfl

theorem findAt_file (b : List UInt8) (ns : List String) :
    findAt (file b) ns = if ns = [] then .file b else .absent := by
  cases ns <;> rfl

theorem exists_directory_of_findAt_nil {t : FileTree} (h : findAt t [] = .directory) :
    ∃ es, t = directory es := by
  cases t with
  | file b => cases h
  | directory es => exact ⟨es, rfl⟩

/-- There is something below directories only. -/
theorem findAt_below {t : FileTree} {n : String} (h : findAt t [n] ≠ .directory) {ms : List String}
    (hms : ms ≠ []) : findAt t (n :: ms) = .absent := by
  cases t with
  | file b => rfl
  | directory es =>
    rw [findAt_directory_cons] at h ⊢
    cases hl : lookup n es with
    | none => rfl
    | some u =>
      cases u with
      | file b =>
        rw [Option.map_some, Option.getD_some, findAt_file, if_neg hms]
      | directory ds =>
        rw [hl] at h
        exact absurd rfl h

/-- **A file takes its place**, and nothing else changes, if there is a directory above it and none in
its place. -/
theorem exists_alter_eq_some {change : Option FileTree → Option FileTree} {b : List UInt8}
    (hc : ∀ x, (∀ ds, x ≠ some (directory ds)) → change x = some (file b)) {ns : List String}
    {n : String} {t : FileTree} (h : findAt t ns = .directory) (hn : findAt t (ns ++ [n]) ≠ .directory) :
    ∃ t', alter change (ns ++ [n]) (some t) = some t' ∧
      ∀ ms, findAt t' ms = if ms = ns ++ [n] then .file b else findAt t ms := by
  induction ns generalizing t with
  | nil =>
    obtain ⟨es, rfl⟩ := exists_directory_of_findAt_nil h
    have hfile : ∀ ds, lookup n es ≠ some (directory ds) := by
      intro ds hds
      rw [List.nil_append, findAt_directory_cons, hds] at hn
      exact hn rfl
    refine ⟨directory (putEntry n (file b) es), ?_, fun ms => ?_⟩
    · rw [List.nil_append, alter, alter, hc _ hfile]
      rfl
    cases ms with
    | nil => rfl
    | cons m ms =>
      rw [findAt_putEntry, findAt_file, List.nil_append]
      by_cases hm : m = n
      · rw [if_pos hm, hm]
        by_cases hms : ms = []
        · rw [if_pos hms, if_pos (by rw [hms])]
        · rw [if_neg hms, if_neg fun h => hms (List.cons.inj h).2, findAt_below hn hms]
      · rw [if_neg hm, if_neg fun h => hm (List.cons.inj h).1]
  | cons k ns ih =>
    cases t with
    | file c => cases h
    | directory es =>
      rw [findAt_directory_cons] at h
      rw [List.cons_append, findAt_directory_cons] at hn
      cases hl : lookup k es with
      | none => rw [hl] at h; cases h
      | some u =>
        rw [hl] at h hn
        obtain ⟨u', hu', hfind⟩ := ih h hn
        refine ⟨directory (putEntry k u' es), ?_, fun ms => ?_⟩
        · rw [List.cons_append, alter, hl, hu']
          rfl
        cases ms with
        | nil => rfl
        | cons m ms =>
          rw [findAt_putEntry, List.cons_append]
          by_cases hm : m = k
          · rw [if_pos hm, hm, hfind, findAt_directory_cons, hl, Option.map_some, Option.getD_some]
            simp only [List.cons.injEq, true_and]
          · rw [if_neg hm, if_neg fun h => hm (List.cons.inj h).1]

theorem findAt_alter {change : Option FileTree → Option FileTree} {b : List UInt8}
    (hc : ∀ x, (∀ ds, x ≠ some (directory ds)) → change x = some (file b)) {ns : List String}
    {n : String} {t : FileTree} (h : findAt t ns = .directory) (hn : findAt t (ns ++ [n]) ≠ .directory)
    (ms : List String) :
    findAt ((alter change (ns ++ [n]) (some t)).getD t) ms =
      if ms = ns ++ [n] then .file b else findAt t ms := by
  obtain ⟨t', ht', hfind⟩ := exists_alter_eq_some hc h hn
  rw [ht', Option.getD_some]
  exact hfind ms

/-! ### Writing to a path -/

/-- **A file can be written** to the path: it ends with a name, its directory is there, and no directory
has this name. -/
structure IsWritable (t : FileTree) (p : Path) : Prop where
  plain : Char.ofNat 0 ∉ p.text.toList
  short : p.text.utf8ByteSize ≤ maxPathLength
  exists_place : ∃ ps n es, Path.parts p.text.toList = ps ++ [n.toList] ∧ IsName n ∧
    walk [] t ps = .ok (directory es) ∧ ∀ ds, lookup n es ≠ some (directory ds)

theorem trimParts_append {ps : List (List Char)} {q : List Char} (h : q ≠ []) :
    trimParts (ps ++ [q]) = ps ++ [q] := by
  have hq : ¬ q.isEmpty = true := by simpa using h
  rw [trimParts, List.reverse_append, List.reverse_singleton, List.singleton_append,
    List.dropWhile_cons_of_neg hq, List.reverse_cons, List.reverse_reverse]

namespace IsWritable

variable {t : FileTree} {p : Path} (h : t.IsWritable p)

include h

theorem route_eq : route p = .ok (Path.parts p.text.toList) := by
  obtain ⟨ps, n, es, hparts, hn, -, -⟩ := h.exists_place
  refine route_eq_ok h.plain ?_ h.short
  rw [Path.isEmpty, Bool.eq_false_iff]
  intro he
  rw [String.isEmpty_iff.1 he] at hparts
  have hempty : [] ++ [[]] = ps ++ [n.toList] := hparts
  obtain ⟨-, hnil⟩ := List.append_inj' hempty rfl
  exact hn.isStep.ne_nil (List.cons.inj hnil).1.symm

/-- The file is written. -/
theorem store_eq (b : List UInt8) : t.store p b = .ok (t.write p b) := by
  obtain ⟨ps, n, es, hparts, hn, hwalk, hfile⟩ := h.exists_place
  have h₁ : ¬ (n.toList = [] ∨ n.toList = ['.'] ∨ n.toList = ['.', '.'] ∨ some n.toList = some []) := by
    rintro (hn' | hn' | hn' | hn')
    · exact hn.isStep.ne_nil hn'
    · exact hn.isStep.ne_dot hn'
    · exact hn.ne_parent (String.toList_inj.1 hn')
    · exact hn.isStep.ne_nil (Option.some.inj hn')
  rw [store, h.route_eq, hparts]
  dsimp only
  rw [trimParts_append hn.isStep.ne_nil, List.dropLast_concat, hwalk, List.getLast?_concat]
  simp only [Option.getD_some, String.ofList_toList]
  rw [if_neg h₁, if_neg (Nat.not_lt.2 hn.short)]

/-- The place of the file, the directory above it, and what is found of both. -/
theorem exists_names_eq : ∃ ps n, Path.parts p.text.toList = ps ++ [n.toList] ∧ IsName n ∧
    names p = (placeAfter [] ps).reverse ++ [n] ∧ search (findAt t) [] ps = .directory ∧
    findAt t (names p) ≠ .directory := by
  obtain ⟨ps, n, es, hparts, hn, hwalk, hfile⟩ := h.exists_place
  have hnames : names p = (placeAfter [] ps).reverse ++ [n] := by
    rw [names_eq_placeAfter h.route_eq, hparts, placeAfter_append_name [] ps hn, List.reverse_cons]
  have hsearch : search (findAt t) [] ps = .directory := by
    rw [← Located.root.ofWalk_eq ps, hwalk]
    rfl
  refine ⟨ps, n, hparts, hn, hnames, hsearch, ?_⟩
  rw [hnames, ← List.reverse_cons, ← search_append_name hsearch hn, ← Located.root.ofWalk_eq,
    walk_append_name hwalk hn]
  cases hl : lookup n es with
  | none => exact Finding.noConfusion
  | some u =>
    cases u with
    | file b => exact Finding.noConfusion
    | directory ds => exact absurd hl (hfile ds)

theorem findAt_ne : findAt t (names p) ≠ .directory := by
  obtain ⟨-, -, -, -, -, -, hne⟩ := h.exists_names_eq
  exact hne

/-- **What is at each place** after the file was written. -/
theorem findAt_write (b : List UInt8) (ns : List String) :
    findAt (t.write p b) ns = if ns = names p then .file b else findAt t ns := by
  obtain ⟨ps, n, -, -, hnames, hsearch, hne⟩ := h.exists_names_eq
  rw [hnames] at hne
  rw [write, hnames]
  refine findAt_alter (fun x hx => ?_) (findAt_of_search hsearch) hne ns
  split
  · exact absurd rfl (hx _)
  · rfl

/-- A path that does not end at the place of the file leads where it led before. -/
theorem search_write (b : List UInt8) {ps : List (List Char)}
    (hps : (placeAfter [] ps).reverse ≠ names p) :
    search (findAt (t.write p b)) [] ps = search (findAt t) [] ps := by
  have hother (ns : List String) (hns : ns ≠ names p) : findAt (t.write p b) ns = findAt t ns := by
    rw [h.findAt_write, if_neg hns]
  have hfile : findAt (t.write p b) (names p) ≠ .directory := by
    rw [h.findAt_write, if_pos rfl]
    exact Finding.noConfusion
  exact search_congr hother h.findAt_ne hfile hps

/-- **The file is read back.** -/
theorem read_write (b : List UInt8) : (t.write p b).read p = .ok b := by
  obtain ⟨ps, n, hparts, hn, hnames, hsearch, -⟩ := h.exists_names_eq
  have habove : search (findAt (t.write p b)) [] ps = .directory := by
    rw [h.search_write b, hsearch]
    rw [hnames]
    intro he
    have hlen := congrArg List.length he
    rw [List.length_append, List.length_singleton] at hlen
    omega
  rw [read_eq_ok_iff, find_eq_search _ h.route_eq, hparts, search_append_name habove hn,
    List.reverse_cons, ← hnames, h.findAt_write, if_pos rfl]

/-- **Elsewhere nothing has changed.** -/
theorem find_write_of_ne (b : List UInt8) {q : Path} (hq : names q ≠ names p) :
    (t.write p b).find q = t.find q := by
  refine find_congr fun ps hr => h.search_write b ?_
  rwa [← names_eq_placeAfter hr]

theorem find_eq : t.find p = findAt t (names p) := by
  obtain ⟨ps, n, hparts, hn, hnames, hsearch, -⟩ := h.exists_names_eq
  rw [find_eq_search _ h.route_eq, hparts, search_append_name hsearch hn, List.reverse_cons, ← hnames]

/-- Nothing has changed at all if the same file was there before. -/
theorem find_write_of_find {b : List UInt8} (hb : t.find p = .file b) (q : Path) :
    (t.write p b).find q = t.find q := by
  have hsame : findAt (t.write p b) = findAt t := by
    funext ns
    rw [h.findAt_write]
    split
    · rename_i hns
      rw [hns, ← h.find_eq, hb]
    · rfl
  exact find_congr fun ps _ => by rw [hsame]

end IsWritable

/-- **The paths to which a file can be written.** -/
theorem store_eq_ok_iff {t t' : FileTree} {p : Path} {b : List UInt8} :
    t.store p b = .ok t' ↔ t.IsWritable p ∧ t' = t.write p b := by
  constructor
  · intro hs
    unfold store at hs
    split at hs
    · cases hs
    rename_i ps hr
    obtain ⟨hplain, hshort, rfl⟩ := of_route_eq_ok hr
    dsimp only at hs
    split at hs
    · cases hs
    · cases hs
    rename_i es hwalk
    split at hs
    · cases hs
    rename_i hlast
    split at hs
    · cases hs
    rename_i hlen
    rw [not_or, not_or, not_or] at hlast
    obtain ⟨-, hdot, hparent, hend⟩ := hlast
    obtain ⟨ps, q, hq⟩ : ∃ ps q, Path.parts p.text.toList = ps ++ [q] :=
      ⟨_, _, (List.dropLast_append_getLast (Path.parts_ne_nil _)).symm⟩
    have hne : q ≠ [] := by
      rintro rfl
      rw [hq, List.getLast?_concat] at hend
      exact hend rfl
    have hmem : q ∈ Path.parts p.text.toList := by simp [hq]
    rw [hq, trimParts_append hne, List.getLast?_concat, Option.getD_some] at hdot hparent hlen hs
    rw [hq, trimParts_append hne, List.dropLast_concat] at hwalk
    have hname : IsName (String.ofList q) := by
      constructor
      · rw [String.toList_ofList]
        exact ⟨hne, hdot, fun hc => (Path.mem_of_mem_parts hmem hc).2 rfl⟩
      · intro he
        exact hparent (by rw [← String.toList_ofList (l := q), he]; rfl)
      · rw [String.toList_ofList]
        exact fun hc => hplain (Path.mem_of_mem_parts hmem hc).1
      · exact Nat.le_of_not_lt hlen
    split at hs
    · cases hs
    rename_i hfile
    refine ⟨⟨hplain, hshort, ps, String.ofList q, es, ?_, hname, hwalk, hfile⟩, (Except.ok.inj hs).symm⟩
    rw [hq, String.toList_ofList]
  · rintro ⟨h, rfl⟩
    exact h.store_eq b

end ArchivalBag.FileTree

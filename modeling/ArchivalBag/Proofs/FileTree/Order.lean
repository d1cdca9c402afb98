import ArchivalBag.Proofs.FileTree
import Mathlib.Data.List.Forall2
import Mathlib.Data.List.Perm.Basic

/-!
# Trees that differ in the order of entries

A directory lists its entries in some order, and nobody chose it. Trees that differ in this order only
lead every path to the same file or to directories with the same names in them, so that a reader who
does not ask for the order gets the same answers.

* `Legal`: a tree with legal names everywhere; `Legal.lists`: so has each directory a path leads to.
* `Reordered`: trees that differ in the order of entries only.
* `Reordered.read_eq`, `Reordered.isFile_eq`: the answers that are the same.
* `Reordered.list_cases`: the names that a directory lists, in some order.
-/

namespace ArchivalBag.FileTree

/-! ### Legal trees -/

/-- A tree in which the entries of each directory have legal names. -/
inductive Legal : FileTree → Prop where
  | file (b : List UInt8) : Legal (file b)
  | directory {es : List (String × FileTree)} (names : LegalEntries es)
      (entries : ∀ e ∈ es, Legal e.2) : Legal (directory es)

theorem Legal.legalEntries {es : List (String × FileTree)} (h : Legal (.directory es)) :
    LegalEntries es := by
  cases h with
  | directory names entries => exact names

theorem Legal.entry {es : List (String × FileTree)} (h : Legal (.directory es))
    {e : String × FileTree} (he : e ∈ es) : Legal e.2 := by
  cases h with
  | directory names entries => exact entries e he

mutual

instance decidableLegal : (t : FileTree) → Decidable t.Legal
  | file b => isTrue (.file b)
  | directory es =>
    have := decidableAllLegal es
    decidable_of_iff (LegalEntries es ∧ ∀ e ∈ es, Legal e.2)
      ⟨fun h => .directory h.1 h.2, fun h => ⟨h.legalEntries, fun _ he => h.entry he⟩⟩

instance decidableAllLegal : (es : List (String × FileTree)) → Decidable (∀ e ∈ es, Legal e.2)
  | [] => isTrue (by simp)
  | e :: es =>
    have := decidableEntryLegal e
    have := decidableAllLegal es
    decidable_of_iff (Legal e.2 ∧ ∀ e ∈ es, Legal e.2)
      (List.forall_mem_cons (p := fun x : String × FileTree => Legal x.2)).symm

instance decidableEntryLegal : (e : String × FileTree) → Decidable (Legal e.2)
  | (_, t) => decidableLegal t

end

/-- A walk through a legal tree ends in a legal tree. -/
theorem Legal.of_walk {ps : List (List Char)} {above : List FileTree} {here u : FileTree}
    (ha : ∀ t ∈ above, Legal t) (hh : Legal here) (h : walk above here ps = .ok u) : Legal u := by
  induction ps generalizing above here with
  | nil =>
    rw [← Except.ok.inj h]
    exact hh
  | cons p ps ih =>
    cases here with
    | file b => cases h
    | directory ds =>
      rw [walk_directory_cons] at h
      split at h
      · exact ih ha hh h
      · split at h
        · cases above with
          | nil => exact ih ha hh h
          | cons t ts =>
            exact ih (fun s hs => ha s (List.mem_cons_of_mem t hs)) (ha t List.mem_cons_self) h
        · split at h
          · cases h
          · cases hl : lookup (String.ofList p) ds with
            | none => rw [hl] at h; cases h
            | some t =>
              rw [hl] at h
              refine ih (fun s hs => ?_) (hh.entry (mem_of_lookup hl)) h
              rcases List.mem_cons.1 hs with rfl | hs
              · exact hh
              · exact ha s hs

theorem Legal.of_resolve {t u : FileTree} (ht : Legal t) {p : Path} (h : t.resolve p = .ok u) :
    Legal u := by
  unfold resolve at h
  cases hroute : route p with
  | error f => rw [hroute] at h; cases h
  | ok ps =>
    rw [hroute] at h
    exact Legal.of_walk (fun s hs => absurd hs List.not_mem_nil) ht h

/-- **A directory of a legal tree** has legal entries. -/
theorem Legal.lists {t : FileTree} (ht : Legal t) {dir : Path} {es : List (String × FileTree)}
    (h : t.list dir = .ok es) : t.Lists dir es := by
  have hwalk := (of_list_eq_ok h).2
  have hlegal : Legal (.directory es) :=
    Legal.of_walk (fun s hs => absurd hs List.not_mem_nil) ht hwalk
  exact ⟨h, hlegal.legalEntries⟩

/-! ### The order of entries -/

/-- Trees that differ in nothing but the order in which directories list their entries. -/
inductive Reordered : FileTree → FileTree → Prop where
  | refl (t : FileTree) : Reordered t t
  | perm {es es' : List (String × FileTree)} (h : es.Perm es') :
      Reordered (directory es) (directory es')
  | entry (a b : List (String × FileTree)) (n : String) {u u' : FileTree} (h : Reordered u u') :
      Reordered (directory (a ++ (n, u) :: b)) (directory (a ++ (n, u') :: b))
  | trans {t u v : FileTree} (h : Reordered t u) (h' : Reordered u v) : Reordered t v

theorem LegalEntries.perm {es es' : List (String × FileTree)} (h : LegalEntries es)
    (hp : es.Perm es') : LegalEntries es' where
  isName e he := h.isName e (hp.mem_iff.2 he)
  nodup := (hp.map Prod.fst).nodup_iff.1 h.nodup

theorem Reordered.legal {t t' : FileTree} (h : Reordered t t') (ht : Legal t) : Legal t' := by
  induction h with
  | refl t => exact ht
  | perm hp =>
    exact .directory (ht.legalEntries.perm hp) fun e he => ht.entry (hp.mem_iff.2 he)
  | @entry a b n u u' _ ih =>
    have hu : Legal u := ht.entry (List.mem_append_right a List.mem_cons_self)
    have hnames := ht.legalEntries
    refine .directory ⟨fun e he => ?_, ?_⟩ fun e he => ?_
    · rcases List.mem_append.1 he with he | he
      · exact hnames.isName e (List.mem_append_left _ he)
      · rcases List.mem_cons.1 he with rfl | he
        · exact hnames.isName (n, u) (List.mem_append_right a List.mem_cons_self)
        · exact hnames.isName e (List.mem_append_right a (List.mem_cons_of_mem _ he))
    · have hn := hnames.nodup
      rw [List.map_append, List.map_cons] at hn ⊢
      exact hn
    · rcases List.mem_append.1 he with he | he
      · exact ht.entry (List.mem_append_left _ he)
      · rcases List.mem_cons.1 he with rfl | he
        · exact ih hu
        · exact ht.entry (List.mem_append_right a (List.mem_cons_of_mem _ he))
  | trans _ _ ih ih' => exact ih' (ih ht)

/-! ### The same answers -/

/-- Entries with the same names, and with trees behind each name that differ in their order. -/
structure SameEntries (es es' : List (String × FileTree)) : Prop where
  names : (es.map Prod.fst).Perm (es'.map Prod.fst)
  lookup : ∀ n, Option.Rel Reordered (lookup n es) (lookup n es')

/-- Nodes that tell the same to a reader who does not ask for the order. -/
def Alike : FileTree → FileTree → Prop
  | file b, file b' => b = b'
  | directory es, directory es' => SameEntries es es'
  | _, _ => False

theorem optionRel_refl (o : Option FileTree) : Option.Rel Reordered o o := by
  cases o with
  | none => exact .none
  | some u => exact .some (.refl u)

theorem lookup_eq_of_perm {es es' : List (String × FileTree)} (h : es.Perm es')
    (hn : (es.map Prod.fst).Nodup) (n : String) : lookup n es = lookup n es' := by
  have hn' := (h.map Prod.fst).nodup_iff.1 hn
  cases hl : lookup n es with
  | some u => exact (lookup_of_mem hn' (h.mem_iff.1 (mem_of_lookup hl))).symm
  | none =>
    cases hl' : lookup n es' with
    | none => rfl
    | some u =>
      rw [lookup_of_mem hn (h.mem_iff.2 (mem_of_lookup hl'))] at hl
      cases hl

theorem optionRel_lookup (a b : List (String × FileTree)) (n : String) {u u' : FileTree}
    (h : Reordered u u') (m : String) :
    Option.Rel Reordered (lookup m (a ++ (n, u) :: b)) (lookup m (a ++ (n, u') :: b)) := by
  induction a with
  | nil =>
    rw [List.nil_append, List.nil_append, lookup, lookup]
    split
    · exact .some h
    · exact optionRel_refl _
  | cons e a ih =>
    rw [List.cons_append, List.cons_append, lookup, lookup]
    split
    · exact optionRel_refl _
    · exact ih

theorem optionRel_trans {o o' o'' : Option FileTree} (h : Option.Rel Reordered o o')
    (h' : Option.Rel Reordered o' o'') : Option.Rel Reordered o o'' := by
  cases h with
  | none => exact h'
  | some hu =>
    cases h' with
    | some hu' => exact .some (hu.trans hu')

theorem Alike.trans {t u v : FileTree} (h : Alike t u) (h' : Alike u v) : Alike t v := by
  cases t with
  | file b =>
    cases u with
    | file b' =>
      obtain rfl : b = b' := h
      exact h'
    | directory es' => exact h.elim
  | directory es =>
    cases u with
    | file b' => exact h.elim
    | directory es' =>
      cases v with
      | file b'' => exact h'.elim
      | directory es'' =>
        have h : SameEntries es es' := h
        have h' : SameEntries es' es'' := h'
        exact ⟨h.names.trans h'.names, fun n => optionRel_trans (h.lookup n) (h'.lookup n)⟩

theorem Alike.refl (t : FileTree) : Alike t t := by
  cases t with
  | file b => exact rfl
  | directory es => exact ⟨.refl _, fun n => optionRel_refl _⟩

/-- **Trees that differ in the order of entries are alike**, one level deep. -/
theorem Reordered.alike {t t' : FileTree} (h : Reordered t t') (ht : Legal t) : Alike t t' := by
  induction h with
  | refl t => exact .refl t
  | @perm es es' hp =>
    refine ⟨hp.map Prod.fst, fun n => ?_⟩
    rw [lookup_eq_of_perm hp ht.legalEntries.nodup n]
    exact optionRel_refl _
  | entry a b n hu _ =>
    refine ⟨?_, optionRel_lookup a b n hu⟩
    rw [List.map_append, List.map_append, List.map_cons, List.map_cons]
  | trans h _ ih ih' => exact (ih ht).trans (ih' (h.legal ht))

/-- The same fault, or trees that differ in the order of entries. -/
inductive SameAnswer : Except FileFault FileTree → Except FileFault FileTree → Prop where
  | error (f : FileFault) : SameAnswer (.error f) (.error f)
  | ok {u u' : FileTree} (h : Reordered u u') : SameAnswer (.ok u) (.ok u')

/-- **A walk leads to the same** through trees that differ in the order of entries. -/
theorem sameAnswer_walk {ps : List (List Char)} {above above' : List FileTree}
    {here here' : FileTree} (ha : List.Forall₂ Reordered above above') (hl : ∀ t ∈ above, Legal t)
    (h : Reordered here here') (hh : Legal here) :
    SameAnswer (walk above here ps) (walk above' here' ps) := by
  induction ps generalizing above above' here here' with
  | nil => exact .ok h
  | cons p ps ih =>
    have halike := h.alike hh
    cases here with
    | file b =>
      cases here' with
      | file b' => exact .error _
      | directory es' => exact halike.elim
    | directory es =>
      cases here' with
      | file b' => exact halike.elim
      | directory es' =>
        have halike : SameEntries es es' := halike
        rw [walk_directory_cons, walk_directory_cons]
        split
        · exact ih ha hl h hh
        · split
          · cases ha with
            | nil => exact ih .nil hl h hh
            | cons ht hts =>
              exact ih hts (fun s hs => hl s (List.mem_cons_of_mem _ hs)) ht (hl _ List.mem_cons_self)
          · split
            · exact .error _
            · have hrel := halike.lookup (String.ofList p)
              cases hu : lookup (String.ofList p) es with
              | none =>
                rw [hu] at hrel
                cases hrel' : lookup (String.ofList p) es' with
                | none => exact .error _
                | some u' => rw [hrel'] at hrel; cases hrel
              | some u =>
                rw [hu] at hrel
                cases hrel' : lookup (String.ofList p) es' with
                | none => rw [hrel'] at hrel; cases hrel
                | some u' =>
                  rw [hrel'] at hrel
                  cases hrel with
                  | some hr =>
                    refine ih (.cons h ha) (fun s hs => ?_) hr (hh.entry (mem_of_lookup hu))
                    rcases List.mem_cons.1 hs with rfl | hs
                    · exact hh
                    · exact hl s hs

section Answers
variable {t t' : FileTree} (h : Reordered t t') (ht : Legal t)

include h ht

theorem Reordered.resolve (p : Path) : SameAnswer (t.resolve p) (t'.resolve p) := by
  unfold FileTree.resolve
  cases route p with
  | error f => exact .error f
  | ok ps => exact sameAnswer_walk .nil (fun s hs => absurd hs List.not_mem_nil) h ht

/-- **What a path leads to** in both trees: nothing, the same file, or directories that differ in the
order of entries. -/
theorem Reordered.resolve_cases (p : Path) :
    (∃ f, t.resolve p = .error f ∧ t'.resolve p = .error f) ∨
      (∃ b, t.resolve p = .ok (.file b) ∧ t'.resolve p = .ok (.file b)) ∨
      ∃ es es', t.resolve p = .ok (.directory es) ∧ t'.resolve p = .ok (.directory es') ∧
        SameEntries es es' := by
  have hsame := h.resolve ht p
  cases hu : t.resolve p with
  | error f =>
    rw [hu] at hsame
    cases hu' : t'.resolve p with
    | error f' => rw [hu'] at hsame; cases hsame; exact Or.inl ⟨f, rfl, rfl⟩
    | ok u' => rw [hu'] at hsame; cases hsame
  | ok u =>
    rw [hu] at hsame
    cases hu' : t'.resolve p with
    | error f' => rw [hu'] at hsame; cases hsame
    | ok u' =>
      rw [hu'] at hsame
      cases hsame with
      | ok hr =>
        have halike : Alike u u' := hr.alike (ht.of_resolve hu)
        cases u with
        | file b =>
          cases u' with
          | file b' =>
            obtain rfl : b = b' := halike
            exact Or.inr (Or.inl ⟨b, rfl, rfl⟩)
          | directory es' => exact halike.elim
        | directory es =>
          cases u' with
          | file b' => exact halike.elim
          | directory es' => exact Or.inr (Or.inr ⟨es, es', rfl, rfl, halike⟩)

/-- **The bytes of a file** are the same. -/
theorem Reordered.read_eq (p : Path) : t.read p = t'.read p := by
  unfold FileTree.read
  rcases h.resolve_cases ht p with ⟨f, hu, hu'⟩ | ⟨b, hu, hu'⟩ | ⟨es, es', hu, hu', -⟩
  · rw [hu, hu']
  · rw [hu, hu']
  · rw [hu, hu']

/-- **The same paths lead to files.** -/
theorem Reordered.isFile_eq (p : Path) : t.isFile p = t'.isFile p := by
  unfold FileTree.isFile
  rcases h.resolve_cases ht p with ⟨f, hu, hu'⟩ | ⟨b, hu, hu'⟩ | ⟨es, es', hu, hu', -⟩
  · rw [hu, hu']
  · rw [hu, hu']
  · rw [hu, hu']

/-- **The names that a directory lists**, in some order, unless it cannot be listed in either tree. -/
theorem Reordered.list_cases (dir : Path) :
    (∃ f, t.list dir = .error f ∧ t'.list dir = .error f) ∨
      ∃ es es', t.list dir = .ok es ∧ t'.list dir = .ok es' ∧
        (es.map Prod.fst).Perm (es'.map Prod.fst) := by
  unfold FileTree.list
  rcases h.resolve_cases ht dir with ⟨f, hu, hu'⟩ | ⟨b, hu, hu'⟩ | ⟨es, es', hu, hu', hes⟩
  · rw [hu, hu']
    exact Or.inl ⟨f, rfl, rfl⟩
  · rw [hu, hu']
    exact Or.inl ⟨_, rfl, rfl⟩
  · rw [hu, hu']
    exact Or.inr ⟨es, es', rfl, rfl, hes.names⟩

end Answers

end ArchivalBag.FileTree

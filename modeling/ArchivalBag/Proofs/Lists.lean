import Mathlib.Data.List.Forall2
import Mathlib.Data.List.Induction
import Mathlib.Data.List.Nodup
import Mathlib.Data.List.Perm.Basic

/-!
# Lists related one by one and lists without repetitions

* `exists_forall₂_iff`: a list has a related one if each member has a related one.
* `exists_perm_of_perm_map`: a list of images in another order.
* `mapM_map_eq_some`, `filterMap_map_eq_self`: a list of images that are read back.
* `mem_of_mem_splitOnP`: the pieces of a list.
* `eraseDups_append_singleton`, `eraseDups_eq_self`, `nodup_eraseDups`: repetitions taken out from the left to the right.
-/

namespace ArchivalBag

variable {α β : Type}

theorem exists_forall₂_iff {R : α → β → Prop} {l : List α} :
    (∃ l', List.Forall₂ R l l') ↔ ∀ a ∈ l, ∃ b, R a b := by
  induction l with
  | nil => simp
  | cons a l ih =>
    simp only [List.mem_cons, forall_eq_or_imp, ← ih]
    constructor
    · rintro ⟨_, h⟩
      cases h with
      | cons hab h => exact ⟨⟨_, hab⟩, _, h⟩
    · rintro ⟨⟨b, hab⟩, l', h⟩
      exact ⟨b :: l', .cons hab h⟩

/-- Lists without repetitions that have the same members have the same length. -/
theorem length_eq_of_mem_iff {l l' : List α} (h : l.Nodup) (h' : l'.Nodup)
    (hm : ∀ a, a ∈ l ↔ a ∈ l') : l.length = l'.length :=
  ((List.perm_ext_iff_of_nodup h h').2 hm).length_eq

theorem exists_mem_of_forall₂ {R : α → β → Prop} {l : List α} {l' : List β}
    (h : List.Forall₂ R l l') {b : β} (hb : b ∈ l') : ∃ a ∈ l, R a b := by
  induction h with
  | nil => cases hb
  | cons hab _ ih =>
    rcases List.mem_cons.1 hb with rfl | hb
    · exact ⟨_, List.mem_cons_self, hab⟩
    · obtain ⟨a, ha, hR⟩ := ih hb
      exact ⟨a, List.mem_cons_of_mem _ ha, hR⟩

/-- A list with the members of another one, image by image, is the image of one with its members. -/
theorem exists_perm_of_perm_map {f : α → β} {l : List β} {l' : List α} (h : l.Perm (l'.map f)) :
    ∃ l'' : List α, l''.Perm l' ∧ l = l''.map f := by
  have hc : Relation.Comp (fun x y => x = List.map f y) List.Perm l l' := by
    rw [List.eq_map_comp_perm]
    exact h
  obtain ⟨l'', hl, hp⟩ := hc
  exact ⟨l'', hp, hl⟩

/-- What reads each member of a list back reads the list back. -/
theorem mapM_map_eq_some {f : β → Option α} {g : α → β} {l : List α}
    (h : ∀ a ∈ l, f (g a) = some a) : (l.map g).mapM f = some l := by
  induction l with
  | nil => rfl
  | cons a l ih =>
    have ha : f (g a) = some a := h a List.mem_cons_self
    have hl : (l.map g).mapM f = some l := ih fun b hb => h b (List.mem_cons_of_mem a hb)
    rw [List.map_cons, List.mapM_cons, ha, hl]
    rfl

/-- What reads each member of a list back leaves no member out. -/
theorem filterMap_map_eq_self {f : β → Option α} {g : α → β} {l : List α}
    (h : ∀ a ∈ l, f (g a) = some a) : (l.map g).filterMap f = l := by
  rw [List.filterMap_map]
  exact (List.filterMap_congr h).trans List.filterMap_some

theorem eq_of_map_fst_snd {x y : Option (α × β)} (h₁ : x.map Prod.fst = y.map Prod.fst)
    (h₂ : x.map Prod.snd = y.map Prod.snd) : x = y := by
  cases x with
  | none => exact (Option.map_eq_none_iff.1 h₁.symm).symm
  | some a =>
    obtain ⟨b, rfl, hb⟩ := Option.map_eq_some_iff.1 h₁.symm
    have hsnd : a.2 = b.2 := Option.some.inj h₂
    rw [Prod.ext hb hsnd.symm]

/-- The pieces of a list hold its members, but for those that it is cut at. -/
theorem mem_of_mem_splitOnP {p : α → Bool} {l q : List α} (hq : q ∈ l.splitOnP p) {a : α} (ha : a ∈ q) :
    a ∈ l ∧ p a = false := by
  induction l generalizing q with
  | nil =>
    rw [List.splitOnP_nil, List.mem_singleton] at hq
    rw [hq] at ha
    cases ha
  | cons b l ih =>
    have ih' : ∀ q' ∈ l.splitOnP p, a ∈ q' → a ∈ b :: l ∧ p a = false := fun q' hq' ha' =>
      (ih hq' ha').imp_left (List.mem_cons_of_mem b)
    rw [List.splitOnP_cons_eq_if_modifyHead] at hq
    split at hq
    · rcases List.mem_cons.1 hq with rfl | hq
      · cases ha
      · exact ih' q hq ha
    · rename_i hb
      obtain ⟨q', qs, hsplit⟩ := List.exists_cons_of_ne_nil (List.splitOnP_ne_nil p l)
      rw [hsplit, List.modifyHead_cons] at hq
      rcases List.mem_cons.1 hq with rfl | hq
      · rcases List.mem_cons.1 ha with rfl | ha
        · exact ⟨List.mem_cons_self, Bool.not_eq_true _ ▸ hb⟩
        · exact ih' q' (by rw [hsplit]; exact List.mem_cons_self) ha
      · exact ih' q (by rw [hsplit]; exact List.mem_cons_of_mem q' hq) ha

variable [BEq α] [LawfulBEq α]

theorem eraseDups_append_singleton (l : List α) (a : α) :
    (l ++ [a]).eraseDups = if a ∈ l then l.eraseDups else l.eraseDups ++ [a] := by
  rw [List.eraseDups_append, List.removeAll]
  by_cases h : a ∈ l
  · rw [if_pos h]; simp [h]
  · rw [if_neg h]; simp [h, List.eraseDups_cons]

theorem eraseDups_eq_self {l : List α} (h : l.Nodup) : l.eraseDups = l := by
  induction l using List.reverseRecOn with
  | nil => rfl
  | append_singleton l a ih =>
    obtain ⟨hl, -, hne⟩ := List.nodup_append.1 h
    have ha : a ∉ l := fun hmem => hne a hmem a (List.mem_singleton_self a) rfl
    rw [eraseDups_append_singleton, if_neg ha, ih hl]

theorem notMem_of_mem_splitOn {a : α} {l q : List α} (h : q ∈ l.splitOn a) : a ∉ q := by
  intro ha
  rw [List.splitOn_eq_splitOnP] at h
  simpa using (mem_of_mem_splitOnP h ha).2

theorem nodup_eraseDups (l : List α) : l.eraseDups.Nodup := by
  induction l using List.reverseRecOn with
  | nil => simp
  | append_singleton l a ih =>
    rw [eraseDups_append_singleton]
    split
    · exact ih
    · rename_i h
      refine List.nodup_append.2 ⟨ih, List.nodup_singleton a, fun b hb c hc => ?_⟩
      rw [List.mem_singleton] at hc
      rw [hc]
      rintro rfl
      exact h (List.mem_eraseDups.1 hb)

end ArchivalBag

import ArchivalBag.FileTree
import ArchivalBag.Proofs.Lists
import ArchivalBag.Proofs.Path
import Mathlib.Data.List.Infix

/-!
# Where a path leads by its text alone

Without a look at the file system, a part `..` takes back the part in front of it. Below a directory a
text so takes back some names of the directory and then enters others, and it stays in the directory
exactly if it enters again what it took back.

* `Path.lexical`: the components that are left; `Path.StaysIn`: they start with those of a directory.
* `Turns`: the names that a text takes back and those that it enters; `turns`: their computation.
* `names_join`: the names behind a joined path.
* `staysIn_join_iff`: when a joined path stays in its directory.
-/

namespace ArchivalBag.Path

open FileTree

/-! ### Names taken back and entered -/

/-- The names that were entered, the last one first, after one more component. -/
def enter (acc : List String) : Component → List String
  | .name s => s :: acc
  | .parent => acc.drop 1
  | _ => acc

theorem names_eq (p : Path) : names p = (p.innerComponents.foldl enter []).reverse :=
  rfl

/-- How many names a path takes back that stand in front of it, and which ones it enters then, the
last one first. -/
structure Turns where
  back : Nat
  entered : List String

/-- One more component. -/
def Turns.next (u : Turns) : Component → Turns
  | .name s => ⟨u.back, s :: u.entered⟩
  | .parent =>
    match u.entered with
    | [] => ⟨u.back + 1, []⟩
    | _ :: r => ⟨u.back, r⟩
  | _ => u

/-- What the components of a path take back and enter. -/
def turns (p : Path) : Turns :=
  p.innerComponents.foldl Turns.next ⟨0, []⟩

/-- The names that are left of others. -/
def Turns.onto (u : Turns) (acc : List String) : List String :=
  u.entered ++ acc.drop u.back

theorem Turns.onto_next (u : Turns) (acc : List String) (c : Component) :
    (u.next c).onto acc = enter (u.onto acc) c := by
  obtain ⟨k, ns⟩ := u
  cases c with
  | root => rfl
  | current => rfl
  | name s => rfl
  | parent =>
    cases ns with
    | nil => simp only [next, onto, enter, List.nil_append, List.drop_drop]
    | cons n r => rfl

/-- **Components behind others** take back and enter names. -/
theorem foldl_enter (cs : List Component) (u : Turns) (acc : List String) :
    cs.foldl enter (u.onto acc) = (cs.foldl Turns.next u).onto acc := by
  induction cs generalizing u with
  | nil => rfl
  | cons c cs ih => rw [List.foldl_cons, List.foldl_cons, ← Turns.onto_next, ih]

/-! ### Joined paths -/

theorem innerComponents_join (q : Path) {n : String} (h : n.toList.head? ≠ some '/') :
    (q.join n).innerComponents = q.innerComponents ++ Path.innerComponents ⟨n⟩ := by
  rw [innerComponents_eq, innerComponents_eq, innerComponents_eq, steps_join_of_relative q h,
    List.filterMap_append]

/-- **The names behind a joined path**: some names of the directory are taken back, and others are
entered. -/
theorem names_join (q : Path) {n : String} (h : n.toList.head? ≠ some '/') :
    names (q.join n) = (names q).take ((names q).length - (turns ⟨n⟩).back) ++
      (turns ⟨n⟩).entered.reverse := by
  rw [names_eq, names_eq, innerComponents_join q h, List.foldl_append]
  generalize q.innerComponents.foldl enter [] = acc
  have hturns : (Path.innerComponents ⟨n⟩).foldl enter acc = (turns ⟨n⟩).onto acc :=
    foldl_enter _ ⟨0, []⟩ acc
  rw [hturns, Turns.onto, List.reverse_append, List.reverse_drop, List.length_reverse]

/-! ### Paths that stay in a directory -/

/-- The components of a path once each `..` has taken back the name in front of it. -/
def lexical (p : Path) : List Component :=
  frontComponents p.text.toList ++ (names p).map .name

/-- The path stays in a directory, as far as their texts tell. -/
def StaysIn (p root : Path) : Prop :=
  root.components <+: p.lexical

instance (p root : Path) : Decidable (p.StaysIn root) :=
  inferInstanceAs (Decidable (_ <+: _))

theorem frontComponents_of_head? {cs : List Char} (h : cs.head? = some '/') :
    frontComponents cs = [.root] := by
  obtain ⟨r, rfl⟩ := List.head?_eq_some_iff.1 h
  rfl

theorem eq_parent_or_name_of_mem {p : Path} {c : Component} (h : c ∈ p.innerComponents) :
    c = .parent ∨ ∃ s, c = .name s := by
  rw [innerComponents_eq] at h
  obtain ⟨s, hs, hc⟩ := List.mem_filterMap.1 h
  rw [(isStep_of_mem_steps hs).ofPart?_eq] at hc
  rw [← Option.some.inj hc]
  split
  · exact Or.inl rfl
  · exact Or.inr ⟨_, rfl⟩

/-- Without `..` there are names only. -/
theorem exists_eq_map_name {p : Path} (h : .parent ∉ p.innerComponents) :
    ∃ ns : List String, p.innerComponents = ns.map .name := by
  have hname : ∀ c ∈ p.innerComponents, ∃ s, c = Component.name s := by
    intro c hc
    rcases eq_parent_or_name_of_mem hc with rfl | hs
    · exact absurd hc h
    · exact hs
  obtain ⟨ns, hns⟩ := exists_forall₂_iff.2 hname
  rw [← List.forall₂_map_right_iff, List.forall₂_eq_eq_eq] at hns
  exact ⟨ns, hns⟩

theorem foldl_enter_map (ns acc : List String) :
    (ns.map Component.name).foldl enter acc = ns.reverse ++ acc := by
  induction ns generalizing acc with
  | nil => rfl
  | cons n ns ih =>
    rw [List.map_cons, List.foldl_cons, ih, List.reverse_cons, List.append_assoc]
    rfl

theorem foldl_next_map (ns : List String) (u : Turns) :
    (ns.map Component.name).foldl Turns.next u = ⟨u.back, ns.reverse ++ u.entered⟩ := by
  induction ns generalizing u with
  | nil => rfl
  | cons n ns ih =>
    rw [List.map_cons, List.foldl_cons, ih, List.reverse_cons, List.append_assoc]
    rfl

theorem innerComponents_eq_map_names {p : Path} (h : .parent ∉ p.innerComponents) :
    p.innerComponents = (names p).map .name := by
  obtain ⟨ns, hns⟩ := exists_eq_map_name h
  rw [names_eq, hns, foldl_enter_map, List.append_nil, List.reverse_reverse]

/-- Without `..` nothing is taken back. -/
theorem back_turns_eq_zero {p : Path} (h : .parent ∉ p.innerComponents) : p.turns.back = 0 := by
  obtain ⟨ns, hns⟩ := exists_eq_map_name h
  rw [turns, hns, foldl_next_map]

section Join
variable {r : Path} (hr : r.isAbsolute = true) (hp : .parent ∉ r.components) {n : String}
  (hn : n.toList.head? ≠ some '/')

include hr hp hn

/-- **A joined path stays in its directory** exactly if it enters again the names that it takes
back. -/
theorem staysIn_join_iff :
    (r.join n).StaysIn r ↔
      (names r).drop ((names r).length - (turns ⟨n⟩).back) <+: (turns ⟨n⟩).entered.reverse := by
  have hhead : r.text.toList.head? = some '/' := beq_iff_eq.1 hr
  obtain ⟨cs, hcs⟩ := List.head?_eq_some_iff.1 hhead
  have hjoin : (r.join n).text.toList.head? = some '/' := by rw [toList_join hn, hcs]; rfl
  have hinner : .parent ∉ r.innerComponents := fun hm => hp (List.mem_append_right _ hm)
  have hroot : r.components = .root :: (names r).map .name := by
    rw [← innerComponents_eq_map_names hinner, components, frontComponents_of_head? hhead]
    rfl
  have hinj : Function.Injective Component.name := fun _ _ h => Component.name.inj h
  have hsplit := List.take_append_drop ((names r).length - (turns ⟨n⟩).back) (names r)
  rw [StaysIn, lexical, hroot, frontComponents_of_head? hjoin, List.singleton_append,
    List.prefix_cons_inj, List.prefix_map_iff_of_injective hinj, names_join r hn]
  conv_lhs => lhs; rw [← hsplit]
  exact List.prefix_append_right_inj _

/-- **Without `..` a joined path stays in its directory.** -/
theorem staysIn_join (h : .parent ∉ Path.innerComponents ⟨n⟩) : (r.join n).StaysIn r := by
  rw [staysIn_join_iff hr hp hn, back_turns_eq_zero h, Nat.sub_zero, List.drop_length]
  exact List.nil_prefix

end Join

end ArchivalBag.Path

import ArchivalBag.Path
import ArchivalBag.Proofs.Lists

/-!
# Paths by their steps

A walk along a path goes through its parts, but for the empty ones and the parts `.`, which lead
nowhere: these are the steps of the path. A further part is one more step, and the absolute form of a
path has the steps of the path.

* `parts_append_slash`: the parts on both sides of a slash.
* `steps_join`: one more step.
* `fileName?_join`: the name of an entry of a directory.
* `absolute?_absolute?`: the absolute form of a path is that of itself.
* `steps_absolute?`, `eq_or_mem_of_mem_absolute?`: what the absolute form keeps.
-/

namespace ArchivalBag

open Text

namespace Path

theorem eq_of_toList {p q : Path} (h : p.text.toList = q.text.toList) : p = q := by
  cases p; cases q
  rw [mk.injEq]
  exact String.toList_inj.1 h

/-! ### Parts -/

theorem parts_slash (cs : List Char) : parts ('/' :: cs) = [] :: parts cs := rfl

/-- **The parts on both sides of a slash.** -/
theorem parts_append_slash (a b : List Char) : parts (a ++ '/' :: b) = parts a ++ parts b := by
  unfold parts
  rw [splitBy_eq_splitOnP, splitBy_eq_splitOnP, splitBy_eq_splitOnP]
  exact List.splitOnP_append_cons a b (beq_self_eq_true '/')

theorem parts_of_notMem {a : List Char} (h : '/' ∉ a) : parts a = [a] := by
  unfold parts
  rw [splitBy_eq_splitOnP]
  refine List.splitOnP_eq_singleton fun c hc => beq_eq_false_iff_ne.2 fun heq => ?_
  rw [heq] at hc
  exact h hc

theorem parts_ne_nil (cs : List Char) : parts cs ≠ [] := by
  unfold parts
  rw [splitBy_eq_splitOnP]
  exact List.splitOnP_ne_nil _ cs

theorem mem_of_mem_parts {cs p : List Char} (hp : p ∈ parts cs) {c : Char} (hc : c ∈ p) :
    c ∈ cs ∧ c ≠ '/' := by
  unfold parts at hp
  rw [splitBy_eq_splitOnP] at hp
  exact (mem_of_mem_splitOnP hp hc).imp_right beq_eq_false_iff_ne.1

/-! ### Steps -/

/-- A part that leads somewhere. -/
structure IsStep (s : List Char) : Prop where
  ne_nil : s ≠ []
  ne_dot : s ≠ ['.']
  notMem : '/' ∉ s

/-- The part is neither empty nor `.`. -/
def leads (s : List Char) : Bool :=
  s ≠ [] ∧ s ≠ ['.']

/-- The parts of a path that lead somewhere. -/
def steps (p : Path) : List (List Char) :=
  (parts p.text.toList).filter leads

theorem isStep_of_mem_steps {p : Path} {s : List Char} (h : s ∈ p.steps) : IsStep s := by
  obtain ⟨hmem, hs⟩ := List.mem_filter.1 h
  have hs := of_decide_eq_true hs
  exact ⟨hs.1, hs.2, fun hc => (mem_of_mem_parts hmem hc).2 rfl⟩

theorem mem_of_mem_steps {p : Path} {s : List Char} (h : s ∈ p.steps) {c : Char} (hc : c ∈ s) :
    c ∈ p.text.toList :=
  (mem_of_mem_parts (List.mem_filter.1 h).1 hc).1

theorem IsStep.head?_ne {s : List Char} (h : IsStep s) : s.head? ≠ some '/' := by
  intro hs
  exact h.notMem (List.mem_of_mem_head? hs)

/-- The component of a step. -/
theorem IsStep.ofPart?_eq {s : List Char} (h : IsStep s) :
    Component.ofPart? s = some (if s = ['.', '.'] then .parent else .name (String.ofList s)) := by
  unfold Component.ofPart?
  split
  · exact absurd rfl h.ne_nil
  · exact absurd rfl h.ne_dot
  · simp
  · rename_i hs
    rw [if_neg fun hs' => hs hs']

theorem innerComponents_eq (p : Path) :
    p.innerComponents = p.steps.filterMap Component.ofPart? := by
  rw [innerComponents, steps, List.filterMap_filter]
  refine List.filterMap_congr fun s _ => ?_
  by_cases h : s ≠ [] ∧ s ≠ ['.']
  · rw [if_pos (by simpa [leads] using h)]
  · rw [if_neg (by simpa [leads] using h)]
    rcases not_and_or.1 h with h | h
    · rw [not_not.1 h]; rfl
    · rw [not_not.1 h]; rfl

theorem text_component {s : List Char} {c : Component} (h : Component.ofPart? s = some c) :
    c.text = String.ofList s := by
  unfold Component.ofPart? at h
  split at h
  · cases h
  · cases h
  · obtain rfl := Option.some.inj h; rfl
  · obtain rfl := Option.some.inj h; rfl

/-! ### Joined paths -/

theorem toList_join {q : Path} {n : String} (h : n.toList.head? ≠ some '/') :
    (q.join n).text.toList =
      q.text.toList ++ separator q.text.toList ++ n.toList := by
  rw [join, if_neg h, String.toList_append, String.toList_append, String.toList_ofList]

theorem utf8ByteSize_add_le_join (q : Path) {n : String} (h : n.toList.head? ≠ some '/') :
    q.text.utf8ByteSize + n.utf8ByteSize ≤ (q.join n).text.utf8ByteSize := by
  rw [join, if_neg h, String.utf8ByteSize_append, String.utf8ByteSize_append]
  omega

theorem utf8ByteSize_join_le_join (q : Path) {n n' : String} (h : n.toList.head? ≠ some '/')
    (h' : n'.toList.head? ≠ some '/') (hle : n.utf8ByteSize ≤ n'.utf8ByteSize) :
    (q.join n).text.utf8ByteSize ≤ (q.join n').text.utf8ByteSize := by
  rw [join, if_neg h, join, if_neg h', String.utf8ByteSize_append (t := n),
    String.utf8ByteSize_append (t := n')]
  exact Nat.add_le_add_left hle _

theorem utf8ByteSize_le_join (q : Path) {n : String} (h : n.toList.head? ≠ some '/') :
    q.text.utf8ByteSize ≤ (q.join n).text.utf8ByteSize :=
  Nat.le_trans (Nat.le_add_right _ _) (q.utf8ByteSize_add_le_join h)

theorem isEmpty_join {q : Path} {n : String} (h : IsStep n.toList) : (q.join n).isEmpty = false := by
  rw [isEmpty, Bool.eq_false_iff]
  intro he
  rw [String.isEmpty_iff] at he
  have hnil : (q.join n).text.toList = [] := by rw [he]; rfl
  rw [toList_join h.head?_ne] at hnil
  exact h.ne_nil (List.append_eq_nil_iff.1 hnil).2

/-- The text that a further part is put behind is empty or ends with a slash. -/
theorem separator_cases (cs : List Char) :
    (cs = [] ∧ separator cs = []) ∨ (∃ a, cs = a ++ ['/'] ∧ separator cs = []) ∨
      separator cs = ['/'] := by
  unfold separator
  rcases List.eq_nil_or_concat' cs with rfl | ⟨a, c, rfl⟩
  · exact Or.inl ⟨rfl, rfl⟩
  · rw [List.getLast?_concat]
    by_cases hc : c = '/'
    · subst hc
      exact Or.inr (Or.inl ⟨a, rfl, rfl⟩)
    · refine Or.inr (Or.inr ?_)
      split <;> simp_all

/-- The parts of a joined path, the last of which is the further part. -/
theorem exists_parts_join (q : Path) {n : String} (h : IsStep n.toList) :
    ∃ ps, parts (q.join n).text.toList = ps ++ [n.toList] ∧ ps.filter leads = q.steps := by
  have hn : parts n.toList = [n.toList] := parts_of_notMem h.notMem
  unfold steps
  rw [toList_join h.head?_ne]
  rcases separator_cases q.text.toList with ⟨hq, hs⟩ | ⟨a, hq, hs⟩ | hs
  · refine ⟨[], ?_, ?_⟩
    · rw [hs, hq, List.append_nil, List.nil_append, hn]
      rfl
    · rw [hq]; rfl
  · refine ⟨parts a, ?_, ?_⟩
    · rw [hs, hq, List.append_nil, List.append_assoc, List.singleton_append, parts_append_slash, hn]
    · rw [hq, parts_append_slash, List.filter_append]
      simp [parts, splitBy, leads]
  · refine ⟨parts q.text.toList, ?_, rfl⟩
    rw [hs, List.append_assoc, List.singleton_append, parts_append_slash, hn]

/-- **The steps of a joined path** are those of both parts. -/
theorem steps_join_of_relative (q : Path) {n : String} (h : n.toList.head? ≠ some '/') :
    (q.join n).steps = q.steps ++ Path.steps ⟨n⟩ := by
  unfold steps
  rw [toList_join h]
  rcases separator_cases q.text.toList with ⟨hq, hs⟩ | ⟨a, hq, hs⟩ | hs
  · rw [hs, hq]; rfl
  · have hnil : (parts []).filter leads = [] := rfl
    rw [hs, hq, List.append_nil, List.append_assoc, List.singleton_append, parts_append_slash,
      parts_append_slash, List.filter_append, List.filter_append, hnil, List.append_nil]
  · rw [hs, List.append_assoc, List.singleton_append, parts_append_slash, List.filter_append]

/-- **One more step.** -/
theorem steps_join (q : Path) {n : String} (h : IsStep n.toList) :
    (q.join n).steps = q.steps ++ [n.toList] := by
  have hn : leads n.toList = true := by simp [leads, h.ne_nil, h.ne_dot]
  rw [steps_join_of_relative q h.head?_ne]
  congr 1
  rw [steps, parts_of_notMem h.notMem, List.filter_cons_of_pos hn, List.filter_nil]

/-- A slash at the end is no step. -/
theorem steps_join_empty (q : Path) : (q.join "").steps = q.steps := by
  rw [steps_join_of_relative q (by simp)]
  exact List.append_nil _

/-- The last part of a path is its name, if it leads to a file below a directory. -/
theorem fileName?_of_getLast? {p : Path} {q : List Char} (h : (parts p.text.toList).getLast? = some q)
    (hlead : leads q = true) (hne : q ≠ ['.', '.']) : p.fileName? = some (String.ofList q) := by
  obtain ⟨qs, hqs⟩ := List.getLast?_eq_some_iff.1 h
  have hstep : IsStep q :=
    isStep_of_mem_steps (List.mem_filter.2 ⟨List.mem_of_getLast? h, hlead⟩)
  have hc : Component.ofPart? q = some (.name (String.ofList q)) := by
    rw [hstep.ofPart?_eq, if_neg hne]
  have hlast : p.innerComponents.getLast? = some (.name (String.ofList q)) := by
    rw [innerComponents, hqs, List.filterMap_append, List.filterMap_cons_some hc]
    simp
  have hcs : p.components.getLast? = some (.name (String.ofList q)) := by
    show (frontComponents p.text.toList ++ p.innerComponents).getLast? = _
    rw [List.getLast?_append, hlast]
    rfl
  rw [fileName?, hcs]

/-- **The name of an entry of a directory.** -/
theorem fileName?_join (q : Path) {n : String} (h : IsStep n.toList) (hp : n ≠ "..") :
    (q.join n).fileName? = some n := by
  have hne : n.toList ≠ ['.', '.'] := fun hn => hp (String.toList_inj.1 hn)
  obtain ⟨ps, hps, -⟩ := exists_parts_join q h
  have hlast : (parts (q.join n).text.toList).getLast? = some n.toList := by
    rw [hps, List.getLast?_concat]
  rw [fileName?_of_getLast? hlast (decide_eq_true ⟨h.ne_nil, h.ne_dot⟩) hne, String.ofList_toList]

/-! ### Absolute paths -/

/-- The text starts with exactly these slashes. -/
def Rooted (front : List Char) (q : Path) : Prop :=
  ∃ tail, q.text.toList = front ++ tail ∧ tail.head? ≠ some '/'

theorem rootText_cases (cs : List Char) :
    (rootText cs).toList = ['/'] ∨ (rootText cs).toList = ['/', '/'] := by
  unfold rootText
  split <;> simp

theorem Rooted.rootText_eq {cs : List Char} {q : Path} (h : Rooted (rootText cs).toList q) :
    rootText q.text.toList = rootText cs := by
  obtain ⟨tail, hq, ht⟩ := h
  rw [← String.toList_inj, hq]
  rcases rootText_cases cs with h | h
  · rw [h]
    cases tail with
    | nil => rfl
    | cons c tail =>
      have hc : c ≠ '/' := fun hc => ht (by rw [hc]; rfl)
      simp only [List.singleton_append]
      unfold rootText
      split <;> simp_all
  · rw [h]
    cases tail with
    | nil => rfl
    | cons c tail =>
      have hc : c ≠ '/' := fun hc => ht (by rw [hc]; rfl)
      simp only [List.cons_append, List.nil_append]
      unfold rootText
      split <;> simp_all

theorem Rooted.isEmpty_eq_false {cs : List Char} {q : Path} (h : Rooted (rootText cs).toList q) :
    q.isEmpty = false := by
  obtain ⟨tail, hq, -⟩ := h
  rw [isEmpty, Bool.eq_false_iff]
  intro he
  rw [String.isEmpty_iff] at he
  rw [he] at hq
  rcases rootText_cases cs with h | h <;> rw [h] at hq <;> cases hq

theorem Rooted.join {cs : List Char} {q : Path} (h : Rooted (rootText cs).toList q) {n : String}
    (hn : n.toList.head? ≠ some '/') : Rooted (rootText cs).toList (q.join n) := by
  obtain ⟨tail, hq, ht⟩ := h
  rw [Rooted, toList_join hn]
  refine ⟨tail ++ separator q.text.toList ++ n.toList, by rw [hq]; simp, ?_⟩
  cases tail with
  | cons c tail => simpa using ht
  | nil =>
    have hs : separator q.text.toList = [] := by
      rw [hq, List.append_nil]
      rcases rootText_cases cs with h | h <;> rw [h] <;> rfl
    rw [hs]
    simpa using hn

/-- The path that some steps lead to. -/
def descend (q : Path) (ss : List (List Char)) : Path :=
  ss.foldl (fun q s => q.join (String.ofList s)) q

theorem descend_cons (q : Path) (s : List Char) (ss : List (List Char)) :
    descend q (s :: ss) = descend (q.join (String.ofList s)) ss := rfl

theorem steps_descend (q : Path) {ss : List (List Char)} (h : ∀ s ∈ ss, IsStep s) :
    (descend q ss).steps = q.steps ++ ss := by
  induction ss generalizing q with
  | nil => rw [List.append_nil]; rfl
  | cons s ss ih =>
    have hs : IsStep (String.ofList s).toList := by
      rw [String.toList_ofList]; exact h s List.mem_cons_self
    rw [descend_cons, ih _ fun s' hs' => h s' (List.mem_cons_of_mem s hs'), steps_join q hs,
      String.toList_ofList, List.append_assoc, List.singleton_append]

theorem Rooted.descend {cs : List Char} {q : Path} (hq : Rooted (rootText cs).toList q)
    {ss : List (List Char)} (h : ∀ s ∈ ss, IsStep s) :
    Rooted (rootText cs).toList (descend q ss) := by
  induction ss generalizing q with
  | nil => exact hq
  | cons s ss ih =>
    have hs : (String.ofList s).toList.head? ≠ some '/' := by
      rw [String.toList_ofList]; exact (h s List.mem_cons_self).head?_ne
    exact ih (hq.join hs) fun s' hs' => h s' (List.mem_cons_of_mem s hs')

theorem eq_or_mem_of_mem_join {q : Path} {n : String} {c : Char}
    (hc : c ∈ (q.join n).text.toList) : c = '/' ∨ c ∈ q.text.toList ∨ c ∈ n.toList := by
  unfold join at hc
  split at hc
  · exact Or.inr (Or.inr hc)
  · rw [String.toList_append, String.toList_append, String.toList_ofList, List.mem_append,
      List.mem_append] at hc
    rcases hc with (hc | hc) | hc
    · exact Or.inr (Or.inl hc)
    · refine Or.inl ?_
      unfold separator at hc
      split at hc
      · cases hc
      · cases hc
      · exact List.mem_singleton.1 hc
    · exact Or.inr (Or.inr hc)

theorem eq_or_mem_of_mem_descend {q : Path} {ss : List (List Char)} {c : Char}
    (hc : c ∈ (descend q ss).text.toList) :
    c = '/' ∨ c ∈ q.text.toList ∨ ∃ s ∈ ss, c ∈ s := by
  induction ss generalizing q with
  | nil => exact Or.inr (Or.inl hc)
  | cons s ss ih =>
    rcases ih hc with hc | hc | ⟨s', hs', hc⟩
    · exact Or.inl hc
    · rcases eq_or_mem_of_mem_join hc with hc | hc | hc
      · exact Or.inl hc
      · exact Or.inr (Or.inl hc)
      · rw [String.toList_ofList] at hc
        exact Or.inr (Or.inr ⟨s, List.mem_cons_self, hc⟩)
    · exact Or.inr (Or.inr ⟨s', List.mem_cons_of_mem s hs', hc⟩)

/-- The slashes that the absolute form of a path starts with. -/
def front (p : Path) : Path :=
  ⟨rootText p.text.toList⟩

theorem rooted_front (p : Path) : Rooted (rootText p.text.toList).toList p.front :=
  ⟨[], by rw [front, List.append_nil], by simp⟩

theorem steps_front (p : Path) : p.front.steps = [] := by
  unfold front steps
  rcases rootText_cases p.text.toList with h | h <;> rw [h] <;> rfl

theorem eq_of_mem_front {p : Path} {c : Char} (hc : c ∈ p.front.text.toList) : c = '/' := by
  unfold front at hc
  rcases rootText_cases p.text.toList with h | h <;> rw [h] at hc <;> simpa using hc

theorem foldl_innerComponents (p q : Path) :
    p.innerComponents.foldl (fun q c => q.join c.text) q = descend q p.steps := by
  rw [innerComponents_eq]
  have hsteps : ∀ s ∈ p.steps, IsStep s := fun s hs => isStep_of_mem_steps hs
  revert hsteps
  generalize p.steps = ss
  intro hsteps
  induction ss generalizing q with
  | nil => rfl
  | cons s ss ih =>
    have hc := (hsteps s List.mem_cons_self).ofPart?_eq
    rw [List.filterMap_cons_some hc, List.foldl_cons, text_component hc, descend_cons]
    exact ih _ fun s' hs' => hsteps s' (List.mem_cons_of_mem s hs')

/-- The absolute form of a path, but for a slash at its end. -/
def base (p : Path) : Path :=
  descend p.front p.steps

theorem steps_base (p : Path) : p.base.steps = p.steps := by
  rw [base, steps_descend _ fun s hs => isStep_of_mem_steps hs, steps_front, List.nil_append]

theorem rooted_base (p : Path) : Rooted (rootText p.text.toList).toList p.base :=
  (rooted_front p).descend fun _ hs => isStep_of_mem_steps hs

/-- **The absolute form** has the slashes and the steps of the path, and a slash at its end if the
path has one. -/
theorem absolute?_eq {p : Path} (h : p.isEmpty = false) :
    p.absolute? = some (if p.text.toList.getLast? = some '/' then p.base.join "" else p.base) := by
  rw [absolute?, if_neg (by simp [h])]
  simp only [foldl_innerComponents]
  rfl

theorem isEmpty_eq_false_of_absolute? {p r : Path} (h : p.absolute? = some r) :
    p.isEmpty = false := by
  rw [Bool.eq_false_iff]
  intro he
  rw [absolute?, if_pos he] at h
  cases h

theorem eq_of_absolute? {p r : Path} (h : p.absolute? = some r) :
    (p.text.toList.getLast? = some '/' ∧ r = p.base.join "") ∨ r = p.base := by
  rw [absolute?_eq (isEmpty_eq_false_of_absolute? h)] at h
  split at h
  · rename_i hl
    exact Or.inl ⟨hl, (Option.some.inj h).symm⟩
  · exact Or.inr (Option.some.inj h).symm

/-- **The absolute form of a path has its steps.** -/
theorem steps_absolute? {p r : Path} (h : p.absolute? = some r) : r.steps = p.steps := by
  rcases eq_of_absolute? h with ⟨-, rfl⟩ | rfl
  · rw [steps_join_empty, steps_base]
  · exact steps_base p

theorem rooted_absolute? {p r : Path} (h : p.absolute? = some r) :
    Rooted (rootText p.text.toList).toList r := by
  rcases eq_of_absolute? h with ⟨-, rfl⟩ | rfl
  · exact (rooted_base p).join (by simp)
  · exact rooted_base p

theorem isAbsolute_absolute? {p r : Path} (h : p.absolute? = some r) : r.isAbsolute = true := by
  obtain ⟨tail, hr, -⟩ := rooted_absolute? h
  rw [isAbsolute, hr]
  rcases rootText_cases p.text.toList with hf | hf <;> rw [hf] <;> rfl

/-- Nothing but slashes is added to a path. -/
theorem eq_or_mem_of_mem_absolute? {p r : Path} (h : p.absolute? = some r) {c : Char}
    (hc : c ∈ r.text.toList) : c = '/' ∨ c ∈ p.text.toList := by
  have hbase : ∀ c ∈ p.base.text.toList, c = '/' ∨ c ∈ p.text.toList := by
    intro c hc
    rcases eq_or_mem_of_mem_descend hc with hc | hc | ⟨s, hs, hc⟩
    · exact Or.inl hc
    · exact Or.inl (eq_of_mem_front hc)
    · exact Or.inr (mem_of_mem_steps hs hc)
  rcases eq_of_absolute? h with ⟨-, rfl⟩ | rfl
  · rcases eq_or_mem_of_mem_join hc with hc | hc | hc
    · exact Or.inl hc
    · exact hbase c hc
    · cases hc
  · exact hbase c hc

theorem join_empty_of_getLast? {q : Path} (h : q.text.toList.getLast? = some '/') :
    q.join "" = q := by
  refine eq_of_toList ?_
  rw [toList_join (by simp), separator, h]
  simp

theorem getLast?_join_empty {q : Path} (h : q.isEmpty = false) :
    (q.join "").text.toList.getLast? = some '/' := by
  rw [toList_join (by simp)]
  rcases separator_cases q.text.toList with ⟨hq, -⟩ | ⟨a, hq, hs⟩ | hs
  · rw [isEmpty, Bool.eq_false_iff, Ne, String.isEmpty_iff] at h
    exact absurd (String.toList_inj.1 hq) h
  · rw [hs, hq]; simp
  · rw [hs]; simp

/-- **The absolute form of a path is that of itself.** -/
theorem absolute?_absolute? {p r : Path} (h : p.absolute? = some r) : r.absolute? = some r := by
  have hroot := rooted_absolute? h
  have hb : r.base = p.base := by
    rw [base, base, steps_absolute? h, front, hroot.rootText_eq, front]
  rw [absolute?_eq hroot.isEmpty_eq_false, hb]
  rcases eq_of_absolute? h with ⟨-, hr⟩ | hr
  · rw [hr, if_pos (getLast?_join_empty (rooted_base p).isEmpty_eq_false)]
  · rw [hr]
    split
    · rename_i hl
      rw [join_empty_of_getLast? hl]
    · rfl

end Path

end ArchivalBag

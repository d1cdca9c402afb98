import ArchivalBag.Proofs.Lists
import ArchivalBag.Text.Lines
import Mathlib.Data.List.Basic

/-!
# Content lines by their places

The content lines of a file as they are numbered and filtered on the way, described by the lines of the
file and their places alone. `content? l` is what a line says, and the content lines of a file are
what its lines say, in order, each with its place counted from one.

* `dropReturn_eq`: at most one carriage return is taken off a line.
* `map_text_contentLines`: nothing but lines without content is left out.
* `contentFrom_append`: the numbers go on across a cut of the file; `exists_of_contentLines_eq`: one
  content line and those in front of it.
* `filterMap_content?_lines`: a text of plain lines has these lines; `content_eq_map`: what is left of
  other lines.
-/

namespace ArchivalBag.Text

/-! ### The content of a line -/

theorem dropReturn_cons_of_ne {c : Char} {cs : List Char} (h : ¬ (c = '\r' ∧ cs = [])) :
    dropReturn (c :: cs) = c :: dropReturn cs := by
  rw [dropReturn]
  rintro rfl rfl
  exact h ⟨rfl, rfl⟩

/-- **One carriage return** is taken off the end of a line that has one. -/
theorem dropReturn_eq (cs : List Char) :
    dropReturn cs = if cs.getLast? = some '\r' then cs.dropLast else cs := by
  induction cs with
  | nil => rfl
  | cons c cs ih =>
    by_cases h : c = '\r' ∧ cs = []
    · obtain ⟨rfl, rfl⟩ := h; rfl
    · rw [dropReturn_cons_of_ne h, ih]
      cases cs with
      | nil =>
        have hc : c ≠ '\r' := fun hc => h ⟨hc, rfl⟩
        simp [hc]
      | cons d cs =>
        rw [List.getLast?_cons_cons, List.dropLast_cons_of_ne_nil (List.cons_ne_nil d cs)]
        split <;> rfl

theorem dropReturn_eq_self {cs : List Char} (h : cs.getLast? ≠ some '\r') :
    dropReturn cs = cs := by
  rw [dropReturn_eq, if_neg h]

theorem dropReturn_append_return (b : List Char) : dropReturn (b ++ ['\r']) = b := by
  rw [dropReturn_eq, List.getLast?_concat, if_pos rfl, List.dropLast_concat]

theorem mem_of_mem_dropReturn {cs : List Char} {c : Char} (h : c ∈ dropReturn cs) : c ∈ cs := by
  rw [dropReturn_eq] at h
  split at h
  · exact (List.dropLast_sublist cs).subset h
  · exact h

/-- What a line says: the line without one carriage return at its end, if anything is left. -/
def content? (line : String) : Option (List Char) :=
  if dropReturn line.toList = [] then none else some (dropReturn line.toList)

theorem content?_eq_none_iff {l : String} : content? l = none ↔ dropReturn l.toList = [] := by
  unfold content?; split <;> simp_all

theorem content?_eq_some_iff {l : String} {t : List Char} :
    content? l = some t ↔ t ≠ [] ∧ dropReturn l.toList = t := by
  unfold content?
  split
  · rename_i h
    rw [h]
    simp only [reduceCtorEq, ne_eq, false_iff, not_and]
    intro ht h'; exact ht h'.symm
  · rename_i h
    simp only [Option.some.injEq, ne_eq]
    constructor
    · rintro rfl; exact ⟨h, rfl⟩
    · exact And.right

/-- What a line without a line feed says holds none either. -/
theorem notMem_of_content?_eq_some {l : String} {t : List Char} (h : content? l = some t)
    (hl : '\n' ∉ l.toList) : '\n' ∉ t := by
  rw [← (content?_eq_some_iff.1 h).2]
  exact fun hmem => hl (mem_of_mem_dropReturn hmem)

theorem content?_ofList {t : List Char} (hne : t ≠ []) (h : t.getLast? ≠ some '\r') :
    content? (String.ofList t) = some t :=
  content?_eq_some_iff.2 ⟨hne, by rw [String.toList_ofList, dropReturn_eq_self h]⟩

/-- What the line at a place says. -/
def contentAt? (lines : List String) (i : Nat) : Option (List Char) :=
  lines[i]?.bind content?

@[simp] theorem contentAt?_cons_zero (l : String) (ls : List String) :
    contentAt? (l :: ls) 0 = content? l := rfl

theorem contentAt?_take {ls : List String} {i n : Nat} (h : i < n) :
    contentAt? (ls.take n) i = contentAt? ls i := by
  rw [contentAt?, contentAt?, List.getElem?_take_of_lt h]

/-! ### The content lines of a file -/

theorem contentFrom_cons_none {l : String} (h : content? l = none) (n : Nat) (ls : List String) :
    contentFrom n (l :: ls) = contentFrom (n + 1) ls := by
  rw [contentFrom, content?_eq_none_iff.1 h]

theorem contentFrom_cons_some {l : String} {t : List Char} (h : content? l = some t) (n : Nat)
    (ls : List String) : contentFrom n (l :: ls) = ⟨n, t⟩ :: contentFrom (n + 1) ls := by
  obtain ⟨hne, ht⟩ := content?_eq_some_iff.1 h
  obtain ⟨c, r, rfl⟩ := List.exists_cons_of_ne_nil hne
  rw [contentFrom, ht]

theorem contentFrom_append (n : Nat) (a b : List String) :
    contentFrom n (a ++ b) = contentFrom n a ++ contentFrom (n + a.length) b := by
  induction a generalizing n with
  | nil => simp [contentFrom]
  | cons l a ih =>
    have hn : n + 1 + a.length = n + (l :: a).length := by rw [List.length_cons]; omega
    cases h : content? l with
    | none =>
      rw [List.cons_append, contentFrom_cons_none h, contentFrom_cons_none h, ih, hn]
    | some t =>
      rw [List.cons_append, contentFrom_cons_some h, contentFrom_cons_some h, ih, hn]; rfl

/-- A content line stands under its number, behind the content lines of the lines in front of it. -/
theorem exists_of_contentFrom_eq {n : ℕ} {ls : List String} {before after : List Line} {l : Line}
    (h : contentFrom n ls = before ++ l :: after) :
    ∃ i, l.number = n + i ∧ contentAt? ls i = some l.text ∧ before = contentFrom n (ls.take i) := by
  induction ls generalizing n before with
  | nil => exact absurd h.symm (by simp [contentFrom])
  | cons u ls ih =>
    have hn : ∀ i, n + 1 + i = n + (i + 1) := fun i => by omega
    cases hu : content? u with
    | none =>
      rw [contentFrom_cons_none hu] at h
      obtain ⟨i, hi, ht, hbefore⟩ := ih h
      refine ⟨i + 1, by rw [hi, hn], ht, ?_⟩
      rw [List.take_succ_cons, contentFrom_cons_none hu, hbefore]
    | some t =>
      rw [contentFrom_cons_some hu] at h
      cases before with
      | nil =>
        obtain ⟨rfl, -⟩ := List.cons.inj h
        exact ⟨0, rfl, hu, rfl⟩
      | cons l' before =>
        obtain ⟨rfl, hrest⟩ := List.cons.inj h
        obtain ⟨i, hi, ht, hbefore⟩ := ih hrest
        refine ⟨i + 1, by rw [hi, hn], ht, ?_⟩
        rw [List.take_succ_cons, contentFrom_cons_some hu, hbefore]

theorem exists_of_contentLines_eq {ls : List String} {before after : List Line} {l : Line}
    (h : contentLines ls = before ++ l :: after) :
    ∃ i, l.number = i + 1 ∧ contentAt? ls i = some l.text ∧ before = contentLines (ls.take i) := by
  obtain ⟨i, hi, ht, hbefore⟩ := exists_of_contentFrom_eq h
  exact ⟨i, by rw [hi, Nat.add_comm], ht, hbefore⟩

theorem map_text_contentFrom (n : Nat) (ls : List String) :
    (contentFrom n ls).map Line.text = ls.filterMap content? := by
  induction ls generalizing n with
  | nil => rfl
  | cons l ls ih =>
    cases h : content? l with
    | none => rw [contentFrom_cons_none h, ih, List.filterMap_cons_none h]
    | some t => rw [contentFrom_cons_some h, List.map_cons, ih, List.filterMap_cons_some h]

/-- **The content lines of a file are what its lines say.** -/
theorem map_text_contentLines (ls : List String) :
    (contentLines ls).map Line.text = ls.filterMap content? :=
  map_text_contentFrom 1 ls

/-! ### The lines of a text -/

/-- **A line feed ends a line**; a carriage return in front of it goes with it. -/
theorem splitLines_append {l : List Char} (h : '\n' ∉ l) (r : List Char) :
    splitLines (l ++ '\n' :: r) = dropReturn l :: splitLines r := by
  induction l with
  | nil => rfl
  | cons c l ih =>
    rw [List.mem_cons, not_or] at h
    obtain ⟨hc, hl⟩ := h
    have ih := ih hl
    by_cases hr : c = '\r' ∧ l = []
    · obtain ⟨rfl, rfl⟩ := hr; rfl
    · rw [dropReturn_cons_of_ne hr, List.cons_append, splitLines, ih]
      · rintro r' rfl hr'
        cases l with
        | nil => exact hr ⟨rfl, rfl⟩
        | cons d l =>
          rw [List.cons_append] at hr'
          exact hl (by rw [(List.cons.inj hr').1]; exact List.mem_cons_self)
      · rintro rfl; exact hc rfl

/-- The text of some lines, with a line feed behind each. -/
def endedText (ls : List String) : String :=
  String.ofList (ls.flatMap fun l => l.toList ++ ['\n'])

/-- A line that reads as it is written: it says something, holds no line feed, and does not end with
a carriage return. -/
structure IsPlainLine (l : List Char) : Prop where
  ne_nil : l ≠ []
  notMem : '\n' ∉ l
  getLast?_ne : l.getLast? ≠ some '\r'

theorem IsPlainLine.dropReturn_eq {l : List Char} (h : IsPlainLine l) : dropReturn l = l :=
  dropReturn_eq_self h.getLast?_ne

/-- Plain lines say what they are. -/
theorem filterMap_content?_of_isPlainLine {ls : List String} (h : ∀ l ∈ ls, IsPlainLine l.toList) :
    ls.filterMap content? = ls.map String.toList := by
  rw [← List.filterMap_eq_map]
  refine List.filterMap_congr fun l hl => ?_
  have hplain := h l hl
  rw [content?_eq_some_iff.2 ⟨hplain.ne_nil, hplain.dropReturn_eq⟩]
  rfl

theorem splitLines_flatMap {ls : List (List Char)} (h : ∀ l ∈ ls, '\n' ∉ l) :
    splitLines (ls.flatMap (· ++ ['\n'])) = ls.map dropReturn := by
  induction ls with
  | nil => rfl
  | cons l ls ih =>
    rw [List.flatMap_cons, List.append_assoc, List.singleton_append,
      splitLines_append (h l List.mem_cons_self), ih fun l' hl' => h l' (List.mem_cons_of_mem l hl'),
      List.map_cons]

/-- **The lines of a text of plain lines** say what is written. -/
theorem filterMap_content?_lines {ls : List (List Char)} (h : ∀ l ∈ ls, IsPlainLine l) :
    (lines (String.ofList (ls.flatMap (· ++ ['\n'])))).filterMap content? = ls := by
  rw [lines, String.toList_ofList, splitLines_flatMap fun l hl => (h l hl).notMem, List.map_map]
  refine filterMap_map_eq_self fun l hl => ?_
  show content? (String.ofList (dropReturn l)) = some l
  rw [(h l hl).dropReturn_eq]
  exact content?_ofList (h l hl).ne_nil (h l hl).getLast?_ne

/-- A carriage return behind each line leaves it what it says. -/
theorem filterMap_content?_return {ls : List (List Char)} (h : ∀ l ∈ ls, l ≠ []) :
    (ls.map fun l => String.ofList (l ++ ['\r'])).filterMap content? = ls := by
  refine filterMap_map_eq_self fun l hl => content?_eq_some_iff.2 ⟨h l hl, ?_⟩
  rw [String.toList_ofList, dropReturn_append_return]

/-- If all lines of a text are content lines, two carriage returns at most are taken off each: one as
a part of the line's end, and one more. -/
theorem content_eq_map {ls : List (List Char)} (h : ∀ l ∈ ls, '\n' ∉ l)
    (hlen : ((lines (String.ofList (ls.flatMap (· ++ ['\n'])))).filterMap content?).length =
      ls.length) :
    (lines (String.ofList (ls.flatMap (· ++ ['\n'])))).filterMap content? =
      ls.map fun l => dropReturn (dropReturn l) := by
  rw [lines, String.toList_ofList, splitLines_flatMap h, List.filterMap_map, List.filterMap_map] at *
  rw [List.filterMap_length_eq_length] at hlen
  clear h
  induction ls with
  | nil => rfl
  | cons l ls ih =>
    obtain ⟨t, ht⟩ := Option.isSome_iff_exists.1 (hlen l List.mem_cons_self)
    have hd : dropReturn (dropReturn l) = t := by
      have hc := (content?_eq_some_iff.1 ht).2
      rwa [String.toList_ofList] at hc
    rw [List.filterMap_cons_some ht, List.map_cons, hd,
      ih fun l' hl' => hlen l' (List.mem_cons_of_mem l hl')]

theorem notMem_of_mem_splitLines {cs l : List Char} (h : l ∈ splitLines cs) : '\n' ∉ l := by
  fun_induction splitLines cs generalizing l with
  | case1 => cases h
  | case2 r ih =>
    rcases List.mem_cons.1 h with rfl | h
    · simp
    · exact ih h
  | case3 r ih =>
    rcases List.mem_cons.1 h with rfl | h
    · simp
    · exact ih h
  | case4 c r _ hc _ _ =>
    obtain rfl := List.mem_singleton.1 h
    rw [List.mem_singleton]
    exact fun hn => hc hn.symm
  | case5 c r _ hc p ps hp ih =>
    rcases List.mem_cons.1 h with rfl | h
    · have hmem : '\n' ∉ p := ih (by rw [hp]; exact List.mem_cons_self)
      rw [List.mem_cons, not_or]
      exact ⟨fun hn => hc hn.symm, hmem⟩
    · exact ih (by rw [hp]; exact List.mem_cons_of_mem _ h)

/-- A content line holds no line feed. -/
theorem notMem_of_mem_content {text : String} {t : List Char}
    (h : t ∈ (lines text).filterMap content?) : '\n' ∉ t := by
  obtain ⟨l, hl, ht⟩ := List.mem_filterMap.1 h
  obtain ⟨cs, hcs, rfl⟩ := List.mem_map.1 hl
  refine notMem_of_content?_eq_some ht ?_
  rw [String.toList_ofList]
  exact notMem_of_mem_splitLines hcs

theorem length_dropReturn_le (cs : List Char) : (dropReturn cs).length ≤ cs.length := by
  rw [dropReturn_eq]
  split
  · rw [List.length_dropLast]; omega
  · exact Nat.le_refl _

theorem length_dropReturn_lt {cs : List Char} (h : cs.getLast? = some '\r') :
    (dropReturn cs).length < cs.length := by
  rw [dropReturn_eq, if_pos h, List.length_dropLast]
  have hne : cs ≠ [] := by rintro rfl; cases h
  have := List.length_pos_iff.2 hne
  omega

end ArchivalBag.Text

import ArchivalBag.Proofs.Text.ContentLines
import Mathlib.Algebra.BigOperators.Group.Finset.Basic

/-!
# Line ends and empty lines

The same lines can be laid out as a text in many ways: each line can end in a line feed with up to two
carriage returns before it, and the last one may lack its line feed. Whichever way is chosen, the content
lines are the same. Empty lines between the lines are no content either; they only raise the numbers of
the lines behind them.

* `LaidOut`: a text that lays out some lines; `contentLines_of_laidOut`: its content lines.
* `withBlankLines`: lines with empty lines between them; `contentLines_withBlankLines`: their content
  lines.
-/

namespace ArchivalBag.Text

/-- What a line can end in. -/
def IsLineEnd (e : List Char) : Prop :=
  e = ['\n'] ∨ e = ['\r', '\n'] ∨ e = ['\r', '\r', '\n']

/-- What the last line of a text can end in. -/
def IsLastEnd (e : List Char) : Prop :=
  IsLineEnd e ∨ e = [] ∨ e = ['\r']

/-- A line without its end: it holds no line feed, and it does not end with a carriage return. -/
structure IsBody (b : List Char) : Prop where
  notMem : '\n' ∉ b
  getLast?_ne : b.getLast? ≠ some '\r'

/-- **A text that lays out some lines**, each with an end of its own. -/
inductive LaidOut : List (List Char) → List Char → Prop where
  | nil : LaidOut [] []
  | last (b : List Char) {e : List Char} (he : IsLastEnd e) : LaidOut [b] (b ++ e)
  | cons (b : List Char) {e : List Char} (he : IsLineEnd e) {bs : List (List Char)} {cs : List Char}
      (h : LaidOut bs cs) : LaidOut (b :: bs) (b ++ e ++ cs)

/-! ### Line ends -/

theorem splitLines_of_notMem {b : List Char} (hne : b ≠ []) (h : '\n' ∉ b) : splitLines b = [b] := by
  induction b with
  | nil => exact absurd rfl hne
  | cons c b ih =>
    rw [List.mem_cons, not_or] at h
    have hfeed : c = '\n' → False := fun hc => h.1 hc.symm
    have hreturn : ∀ r, c = '\r' → b = '\n' :: r → False := by
      rintro r - rfl
      exact h.2 List.mem_cons_self
    rw [splitLines.eq_4 c b hreturn hfeed]
    cases b with
    | nil => rfl
    | cons d b => rw [ih (List.cons_ne_nil d b) h.2]

/-- The content of the first of some lines is all that counts of it. -/
theorem contentFrom_cons_congr {l l' : String} {ls ls' : List String} (n : Nat)
    (h : content? l = content? l') (hs : contentFrom (n + 1) ls = contentFrom (n + 1) ls') :
    contentFrom n (l :: ls) = contentFrom n (l' :: ls') := by
  cases hl : content? l with
  | none => rw [contentFrom_cons_none hl, contentFrom_cons_none (h ▸ hl), hs]
  | some t => rw [contentFrom_cons_some hl, contentFrom_cons_some (h ▸ hl), hs]

theorem content?_append_return {b : List Char} (h : IsBody b) :
    content? (String.ofList (b ++ ['\r'])) = content? (String.ofList b) := by
  unfold content?
  rw [String.toList_ofList, String.toList_ofList, dropReturn_append_return,
    dropReturn_eq_self h.getLast?_ne]

/-- Whatever a line ends in, its content is that of its body. -/
theorem exists_splitLines_append {b e : List Char} (h : IsBody b) (he : IsLineEnd e) (cs : List Char) :
    ∃ l, splitLines (b ++ e ++ cs) = l :: splitLines cs ∧
      content? (String.ofList l) = content? (String.ofList b) := by
  have hn : ∀ {r : List Char}, (∀ c ∈ r, c = '\r') → '\n' ∉ b ++ r := by
    intro r hr hmem
    rcases List.mem_append.1 hmem with hmem | hmem
    · exact h.notMem hmem
    · exact absurd (hr _ hmem) (by decide)
  rcases he with rfl | rfl | rfl
  · refine ⟨dropReturn b, ?_, by rw [dropReturn_eq_self h.getLast?_ne]⟩
    rw [List.append_assoc]
    exact splitLines_append h.notMem cs
  · refine ⟨b, ?_, rfl⟩
    have hs := splitLines_append (hn (r := ['\r']) (by simp)) cs
    rw [dropReturn_append_return] at hs
    simpa using hs
  · refine ⟨b ++ ['\r'], ?_, content?_append_return h⟩
    have hs := splitLines_append (hn (r := ['\r'] ++ ['\r']) (by simp)) cs
    rw [← List.append_assoc, dropReturn_append_return] at hs
    simpa using hs

theorem contentFrom_of_laidOut {bs : List (List Char)} {cs : List Char} (h : LaidOut bs cs)
    (hb : ∀ b ∈ bs, IsBody b) (n : Nat) :
    contentFrom n ((splitLines cs).map String.ofList) = contentFrom n (bs.map String.ofList) := by
  induction h generalizing n with
  | nil => rfl
  | last b he =>
    -- without a line feed behind it the line is not cut off but left over, and none is left over of nothing
    have hbody : IsBody b := hb b List.mem_cons_self
    rcases he with he | rfl | rfl
    · obtain ⟨l, hl, hcontent⟩ := exists_splitLines_append hbody he []
      rw [List.append_nil] at hl
      rw [hl]
      exact contentFrom_cons_congr n hcontent rfl
    · rw [List.append_nil]
      by_cases hnil : b = []
      · rw [hnil]
        rfl
      · rw [splitLines_of_notMem hnil hbody.notMem]
    · have hmem : '\n' ∉ b ++ ['\r'] := by
        simpa using hbody.notMem
      rw [splitLines_of_notMem (by simp) hmem]
      exact contentFrom_cons_congr n (content?_append_return hbody) rfl
  | cons b he h ih =>
    obtain ⟨l, hl, hcontent⟩ := exists_splitLines_append (hb b List.mem_cons_self) he _
    rw [hl]
    exact contentFrom_cons_congr n hcontent (ih (fun b' hb' => hb b' (List.mem_cons_of_mem b hb')) (n + 1))

/-- **The content lines of a text** are those of the lines that it lays out. -/
theorem contentLines_of_laidOut {bs : List (List Char)} {cs : List Char} (h : LaidOut bs cs)
    (hb : ∀ b ∈ bs, IsBody b) :
    contentLines (lines (String.ofList cs)) = contentLines (bs.map String.ofList) := by
  rw [lines, String.toList_ofList]
  exact contentFrom_of_laidOut h hb 1

/-! ### Empty lines -/

/-- The lines with empty lines between them, `gap i` many in front of the line at the place `i`. -/
def withBlankLines (gap : ℕ → ℕ) : List (List Char) → List (List Char)
  | [] => List.replicate (gap 0) []
  | b :: bs => List.replicate (gap 0) [] ++ b :: withBlankLines (fun i => gap (i + 1)) bs

/-- The line under another number. -/
def Line.renumber (f : ℕ → ℕ) (l : Line) : Line :=
  ⟨f l.number, l.text⟩

theorem isBody_of_mem_withBlankLines {gap : ℕ → ℕ} {bs : List (List Char)} (h : ∀ b ∈ bs, IsBody b) :
    ∀ b ∈ withBlankLines gap bs, IsBody b := by
  have hnil : IsBody [] := ⟨by simp, by simp⟩
  induction bs generalizing gap with
  | nil =>
    intro b hb
    rw [List.eq_of_mem_replicate hb]
    exact hnil
  | cons a bs ih =>
    intro b hb
    rcases List.mem_append.1 hb with hb | hb
    · rw [List.eq_of_mem_replicate hb]
      exact hnil
    · rcases List.mem_cons.1 hb with rfl | hb
      · exact h b List.mem_cons_self
      · exact ih (fun b' hb' => h b' (List.mem_cons_of_mem a hb')) b hb

theorem contentFrom_replicate_append (n k : ℕ) (ls : List String) :
    contentFrom n (List.replicate k (String.ofList []) ++ ls) = contentFrom (n + k) ls := by
  induction k generalizing n with
  | zero => rfl
  | succ k ih =>
    rw [List.replicate_succ, List.cons_append, contentFrom_cons_none rfl, ih, Nat.add_right_comm, Nat.add_assoc]

theorem contentFrom_withBlankLines {f : ℕ → ℕ} (bs : List (List Char)) (gap : ℕ → ℕ) (m n : ℕ)
    (hf : ∀ i, f (n + i) = m + i + ∑ j ∈ Finset.range (i + 1), gap j) :
    contentFrom m ((withBlankLines gap bs).map String.ofList) =
      (contentFrom n (bs.map String.ofList)).map (Line.renumber f) := by
  -- the numbers run apart from line to line, so `f` is told by both of the numbers that come next
  induction bs generalizing gap m n with
  | nil =>
    have h := contentFrom_replicate_append m (gap 0) []
    rw [List.append_nil] at h
    rw [withBlankLines, List.map_replicate, h]
    rfl
  | cons b bs ih =>
    have hn : f n = m + gap 0 := by
      have h := hf 0
      rwa [Finset.sum_range_one] at h
    have hnext : ∀ i, f (n + 1 + i) = m + gap 0 + 1 + i + ∑ j ∈ Finset.range (i + 1), gap (j + 1) := by
      intro i
      have h := hf (i + 1)
      rw [Finset.sum_range_succ' gap (i + 1), ← Nat.add_assoc, Nat.add_right_comm n i 1] at h
      omega
    have hrest := ih (fun i => gap (i + 1)) (m + gap 0 + 1) (n + 1) hnext
    rw [withBlankLines, List.map_append, List.map_replicate, contentFrom_replicate_append, List.map_cons,
      List.map_cons]
    cases hl : content? (String.ofList b) with
    | none => rw [contentFrom_cons_none hl, contentFrom_cons_none hl, hrest]
    | some t =>
      rw [contentFrom_cons_some hl, contentFrom_cons_some hl, hrest, List.map_cons, ← hn]
      rfl

/-- **Empty lines are no content.** They raise the number of a line by how many of them are in front of
it. -/
theorem contentLines_withBlankLines (gap : ℕ → ℕ) (bs : List (List Char)) :
    contentLines ((withBlankLines gap bs).map String.ofList) =
      (contentLines (bs.map String.ofList)).map
        (Line.renumber fun n => n + ∑ i ∈ Finset.range n, gap i) :=
  contentFrom_withBlankLines bs gap 1 1 fun i => by rw [Nat.add_comm 1 i]

end ArchivalBag.Text

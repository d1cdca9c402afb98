import ArchivalBag.Text.Blank
import Mathlib.Data.List.TakeWhile

/-!
# Texts with the blanks around them taken off

What `trim` leaves of a text and what it drops: nothing is left exactly of a text of blanks, and
blanks in front of a text make no difference.

* `trim_eq_nil_iff`: nothing is left.
* `trim_eq_self_iff`: nothing is dropped.
-/

namespace ArchivalBag.Text

theorem StartsVisible.blank_eq_false {cs : List Char} (h : StartsVisible cs) {c : Char}
    {r : List Char} (hc : cs = c :: r) : isBlank c = false := by
  subst hc; exact h

theorem StartsVisible.of_append {a b : List Char} (h : StartsVisible (a ++ b)) :
    StartsVisible a := by
  cases a with
  | nil => trivial
  | cons c r => exact h

theorem startsVisible_of_forall {cs : List Char} (h : ∀ c ∈ cs, isBlank c = false) :
    StartsVisible cs := by
  cases cs with
  | nil => trivial
  | cons c r => exact h c List.mem_cons_self

/-- A text is blanks and what is left without them. -/
theorem exists_trimStart (cs : List Char) :
    ∃ ws, (∀ c ∈ ws, isBlank c = true) ∧ cs = ws ++ trimStart cs :=
  ⟨cs.takeWhile isBlank, fun _ hc => List.mem_takeWhile_imp hc,
    (List.takeWhile_append_dropWhile (p := isBlank)).symm⟩

theorem trimEnd_eq_nil_iff {cs : List Char} : trimEnd cs = [] ↔ ∀ c ∈ cs, isBlank c = true := by
  simp [trimEnd, List.dropWhile_eq_nil_iff]

/-- **Nothing is left exactly of a text of blanks.** -/
theorem trim_eq_nil_iff {cs : List Char} : trim cs = [] ↔ ∀ c ∈ cs, isBlank c = true := by
  obtain ⟨ws, hws, hcs⟩ := exists_trimStart cs
  rw [trim, trimEnd_eq_nil_iff]
  constructor
  · intro h c hc
    rw [hcs] at hc
    rcases List.mem_append.1 hc with hc | hc
    · exact hws c hc
    · exact h c hc
  · intro h c hc
    exact h c (by rw [hcs]; exact List.mem_append_right _ hc)

theorem trim_ne_nil {cs : List Char} (hne : cs ≠ []) (h : StartsVisible cs) : trim cs ≠ [] := by
  obtain ⟨c, r, rfl⟩ := List.exists_cons_of_ne_nil hne
  intro ht
  have hb := trim_eq_nil_iff.1 ht c List.mem_cons_self
  rw [h.blank_eq_false rfl] at hb
  exact absurd hb (by decide)

/-! ### Trimmed texts -/

theorem exists_trimEnd_append (cs : List Char) : ∃ ws, cs = trimEnd cs ++ ws := by
  obtain ⟨ws, -, hcs⟩ := exists_trimStart cs.reverse
  refine ⟨ws.reverse, ?_⟩
  have hr := congrArg List.reverse hcs
  rw [List.reverse_reverse, List.reverse_append] at hr
  exact hr

theorem startsVisible_trim (cs : List Char) : StartsVisible (trim cs) := by
  obtain ⟨ws, hcs⟩ := exists_trimEnd_append (trimStart cs)
  have hv := startsVisible_trimStart cs
  rw [hcs] at hv
  exact hv.of_append

theorem startsVisible_reverse_trim (cs : List Char) : StartsVisible (trim cs).reverse := by
  rw [trim, trimEnd, List.reverse_reverse]
  exact startsVisible_trimStart _

/-- **Nothing is dropped** from a text that neither starts nor ends with a blank. -/
theorem trim_eq_self_iff {cs : List Char} :
    trim cs = cs ↔ StartsVisible cs ∧ StartsVisible cs.reverse := by
  constructor
  · intro h
    have hs := startsVisible_trim cs
    have hr := startsVisible_reverse_trim cs
    rw [h] at hs hr
    exact ⟨hs, hr⟩
  · rintro ⟨hs, hr⟩
    have hend : trimEnd cs = cs := by
      show (trimStart cs.reverse).reverse = cs
      rw [trimStart_eq_self hr, List.reverse_reverse]
    rw [trim, trimStart_eq_self hs, hend]

theorem trim_trim (cs : List Char) : trim (trim cs) = trim cs :=
  trim_eq_self_iff.2 ⟨startsVisible_trim cs, startsVisible_reverse_trim cs⟩

theorem trim_of_forall {cs : List Char} (h : ∀ c ∈ cs, isBlank c = false) : trim cs = cs :=
  trim_eq_self_iff.2 ⟨startsVisible_of_forall h,
    startsVisible_of_forall fun c hc => h c (List.mem_reverse.1 hc)⟩

theorem mem_of_mem_trim {cs : List Char} {c : Char} (h : c ∈ trim cs) : c ∈ cs := by
  obtain ⟨ws, hend⟩ := exists_trimEnd_append (trimStart cs)
  obtain ⟨ws', -, hstart⟩ := exists_trimStart cs
  rw [hstart, hend]
  exact List.mem_append_right _ (List.mem_append_left _ h)

/-- A blank in front of a text makes no difference. -/
theorem trim_cons_of_isBlank {c : Char} (h : isBlank c = true) (cs : List Char) :
    trim (c :: cs) = trim cs := by
  have hb : ∀ d ∈ [c], isBlank d = true := fun d hd => by rwa [List.mem_singleton.1 hd]
  rw [trim, ← List.singleton_append, trimStart_blanks hb]
  rfl

/-- A trimmed text does not end with a blank. -/
theorem isBlank_getLast?_of_trim_eq_self {cs : List Char} (h : trim cs = cs) :
    ∀ c ∈ cs.getLast?, isBlank c = false := by
  intro c hc
  rw [List.getLast?_eq_head?_reverse] at hc
  obtain ⟨r, hr⟩ := List.head?_eq_some_iff.1 hc
  exact (trim_eq_self_iff.1 h).2.blank_eq_false hr

end ArchivalBag.Text

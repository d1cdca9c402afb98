import ArchivalBag.Text.Decimal
import Mathlib.Data.List.Basic

/-!
# Numerals

Which texts stand for a number of 64 bits, and why the others do not. Leading zeros do not count, and
neither does the length of the text: the value of its digits decides.

* `IsNumeral`, `readWord_eq_ok_iff`: the texts of a number.
* `LacksWord`, `readWord_eq_error_iff`: the texts of no number, by what is wrong with them.
-/

namespace ArchivalBag.Text

/-- A numeral: digits, at least one of them, and the number that they are worth. -/
def IsNumeral (cs : List Char) (n : UInt64) : Prop :=
  cs ≠ [] ∧ (∀ c ∈ cs, c.isDigit = true) ∧ digitsValue cs = n.toNat

/-- What is wrong with a text that stands for no number of 64 bits: it is empty or has other characters
than digits, or its digits are worth too much. -/
def LacksWord (cs : List Char) : DecimalFault → Prop
  | .notDigits => cs = [] ∨ ∃ c ∈ cs, c.isDigit = false
  | .tooLarge => cs ≠ [] ∧ (∀ c ∈ cs, c.isDigit = true) ∧ 0xFFFFFFFFFFFFFFFF < digitsValue cs

theorem isDigits_eq_true_iff {cs : List Char} :
    isDigits cs = true ↔ cs ≠ [] ∧ ∀ c ∈ cs, c.isDigit = true := by
  rw [isDigits, Bool.and_eq_true, Bool.not_eq_true', List.isEmpty_eq_false_iff, List.all_eq_true]

theorem isDigits_eq_false_iff {cs : List Char} :
    isDigits cs = false ↔ cs = [] ∨ ∃ c ∈ cs, c.isDigit = false := by
  rw [isDigits, Bool.and_eq_false_iff, Bool.not_eq_false', List.isEmpty_iff, List.all_eq_false]
  simp only [Bool.not_eq_true]

/-- **The texts of a number.** -/
theorem readWord_eq_ok_iff {cs : List Char} {n : UInt64} :
    readWord cs = .ok n ↔ IsNumeral cs n := by
  rw [readWord, IsNumeral]
  split
  · rename_i hd
    obtain ⟨hne, hall⟩ := isDigits_eq_true_iff.1 hd
    split
    · rename_i hlt
      rw [Except.ok.injEq]
      constructor
      · rintro rfl
        exact ⟨hne, hall, (UInt64.toNat_ofNat_of_lt hlt).symm⟩
      · rintro ⟨-, -, hv⟩
        rw [hv]; exact UInt64.ofNat_toNat
    · rename_i hlt
      simp only [reduceCtorEq, false_iff, not_and]
      intro _ _ hv
      exact hlt (by rw [hv]; exact n.toNat_lt)
  · rename_i hd
    simp only [reduceCtorEq, false_iff, not_and]
    intro hne hall _
    exact hd (isDigits_eq_true_iff.2 ⟨hne, hall⟩)

/-- **The texts of no number.** -/
theorem readWord_eq_error_iff {cs : List Char} {f : DecimalFault} :
    readWord cs = .error f ↔ LacksWord cs f := by
  cases f with
  | notDigits =>
    have hfault : LacksWord cs .notDigits ↔ isDigits cs = false := isDigits_eq_false_iff.symm
    rw [hfault, readWord]
    cases isDigits cs with
    | false => simp
    | true =>
      rw [if_pos rfl]
      split <;> simp
  | tooLarge =>
    have hfault : LacksWord cs .tooLarge ↔ isDigits cs = true ∧ ¬ digitsValue cs < UInt64.size := by
      rw [isDigits_eq_true_iff, and_assoc, Nat.not_lt]
      exact Iff.rfl
    rw [hfault, readWord]
    cases isDigits cs with
    | false => simp
    | true =>
      rw [if_pos rfl]
      split
      · rename_i hlt
        simp [hlt]
      · rename_i hlt
        simp [hlt]

/-- A text is a numeral or something is wrong with it. -/
theorem exists_lacksWord_iff {cs : List Char} :
    (∃ f, LacksWord cs f) ↔ ¬ ∃ n, IsNumeral cs n := by
  simp only [← readWord_eq_ok_iff, ← readWord_eq_error_iff]
  cases readWord cs <;> simp

theorem IsNumeral.isDigit {cs : List Char} {n : UInt64} (h : IsNumeral cs n) {c : Char} (hc : c ∈ cs) :
    c.isDigit = true :=
  h.2.1 c hc

end ArchivalBag.Text

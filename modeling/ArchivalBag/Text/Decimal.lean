/-!
# Decimal numbers of 64 bits

Versions and byte counts are written as digits of base ten, with any number of leading zeros and
without a sign. A number is read by its value, so the length of the digit string does not matter,
only whether the value fits into 64 bits.

* `readWord`: the number a text stands for, or why it stands for none.
* `writeWord`: its digits without leading zeros.
* `readWord_writeWord`: what is written reads back.
-/

namespace ArchivalBag.Text

/-- Why a text is not a number of 64 bits. -/
inductive DecimalFault where
  /-- The text is empty or has a character other than `0` to `9`. -/
  | notDigits
  /-- The value is 2⁶⁴ or more. -/
  | tooLarge
  deriving DecidableEq, Repr

/-- The text consists of digits, and there is at least one. -/
def isDigits (cs : List Char) : Bool :=
  !cs.isEmpty && cs.all Char.isDigit

/-- The value of a string of digits. -/
def digitsValue (cs : List Char) : Nat :=
  Nat.ofDigitChars 10 cs 0

/-- The number that a string of digits stands for. -/
def readWord (cs : List Char) : Except DecimalFault UInt64 :=
  if isDigits cs then
    if digitsValue cs < UInt64.size then .ok (UInt64.ofNat (digitsValue cs)) else .error .tooLarge
  else .error .notDigits

/-- The digits of a number, without leading zeros. -/
def writeWord (n : UInt64) : List Char :=
  Nat.toDigits 10 n.toNat

theorem isDigits_toDigits (n : Nat) : isDigits (Nat.toDigits 10 n) = true := by
  have h : Nat.toDigits 10 n ≠ [] := Nat.toDigits_ne_nil
  simp only [isDigits, Bool.and_eq_true, Bool.not_eq_true', List.isEmpty_eq_false_iff, List.all_eq_true]
  exact ⟨h, fun c hc => Nat.isDigit_of_mem_toDigits (by omega) (by omega) hc⟩

theorem isDigit_of_mem_writeWord {n : UInt64} {c : Char} (h : c ∈ writeWord n) :
    c.isDigit = true :=
  Nat.isDigit_of_mem_toDigits (by omega) (by omega) h

theorem readWord_writeWord (n : UInt64) : readWord (writeWord n) = .ok n := by
  have hv : digitsValue (writeWord n) = n.toNat :=
    Nat.ofDigitChars_toDigits (by omega) (by omega)
  have hd : isDigits (writeWord n) = true := isDigits_toDigits _
  have hlt : n.toNat < UInt64.size := n.toNat_lt
  simp only [readWord, hd, if_true, hv, hlt]
  simp

end ArchivalBag.Text

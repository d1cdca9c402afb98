/-!
# Hexadecimal digits

* `hexDigit`, `smallHexDigit`: the digit of a number below sixteen, with a capital and with a small
  letter.
* `hexValue?`: the number of a digit of either kind.
* `hexValue?_hexDigit`: a digit stands for its number.
-/

namespace ArchivalBag.Text

/-- The digit of a number below sixteen, with a capital letter. -/
def hexDigit (n : Nat) : Char :=
  if n < 10 then Char.ofNat (48 + n) else Char.ofNat (55 + n)

/-- The digit of a number below sixteen, with a small letter. -/
def smallHexDigit (n : Nat) : Char :=
  if n < 10 then Char.ofNat (48 + n) else Char.ofNat (87 + n)

/-- The number of a digit. -/
def hexValue? (c : Char) : Option Nat :=
  let n := c.toNat
  if 48 ≤ n && n ≤ 57 then some (n - 48)
  else if 65 ≤ n && n ≤ 70 then some (n - 55)
  else if 97 ≤ n && n ≤ 102 then some (n - 87)
  else none

theorem hexValue?_hexDigit {n : Nat} (h : n < 16) : hexValue? (hexDigit n) = some n := by
  revert n; decide

/-- The number that some digits stand for. -/
def hexNumber? (cs : List Char) : Option Nat :=
  cs.foldlM (fun n c => (hexValue? c).map (16 * n + ·)) 0

end ArchivalBag.Text

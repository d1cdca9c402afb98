import ArchivalBag.Text.Decimal
import ArchivalBag.Text.Hex
import ArchivalBag.Text.Split

/-!
# Numbers, dates and times in TOML

Nobody reads their values here, but a document with a malformed one is malformed. An underscore may
stand between two digits. An integer has to fit into 128 bits, with or without a sign, and a number
with a point or an exponent has to be below the largest one of double precision. The seconds of a time
may be left out.

* `isNumber`: the text is a number.
* `isMoment`: the text is a date, a time, or both.
-/

namespace ArchivalBag.Toml

open Text

/-! ## Numbers -/

/-- The text without its underscores, if each of them stands between two digits and there is at
least one digit. -/
def plainDigits? (isDigit : Char → Bool) : List Char → Option (List Char)
  | [] => none
  | [c] => if isDigit c then some [c] else none
  | c :: '_' :: r => if isDigit c then (plainDigits? isDigit r).map (c :: ·) else none
  | c :: d :: r => if isDigit c then (plainDigits? isDigit (d :: r)).map (c :: ·) else none

/-- Decimal digits without a zero in front. -/
def wholeDigits? (cs : List Char) : Option (List Char) :=
  match plainDigits? Char.isDigit cs with
  | some ('0' :: _ :: _) => none
  | ds => ds

/-- The text without its sign; the flag says that the sign is a minus. -/
def splitSign : List Char → Bool × List Char
  | '+' :: r => (false, r)
  | '-' :: r => (true, r)
  | cs => (false, cs)

/-- An integer of 128 bits with or without a sign. -/
def fits (negative : Bool) (n : Nat) : Bool :=
  if negative then n ≤ Nat.pow 2 127 else n < Nat.pow 2 128

/-- The number that digits of a base stand for. -/
def baseValue (base : Nat) (ds : List Char) : Nat :=
  ds.foldl (fun n d => base * n + (hexValue? d).getD 0) 0

/-- The text is an integer in a base other than ten. -/
def isBaseInteger (base : Nat) (isDigit : Char → Bool) (cs : List Char) : Bool :=
  match plainDigits? isDigit cs with
  | some ds => fits false (baseValue base ds)
  | none => false

/-- The text is a decimal integer. -/
def isDecimalInteger (cs : List Char) : Bool :=
  let (negative, cs) := splitSign cs
  match wholeDigits? cs with
  | some ds => fits negative (baseValue 10 ds)
  | none => false

/-- The text is an integer. -/
def isInteger : List Char → Bool
  | '0' :: 'x' :: r => isBaseInteger 16 (fun c => (hexValue? c).isSome) r
  | '0' :: 'o' :: r => isBaseInteger 8 (fun c => c.isDigit && c < '8') r
  | '0' :: 'b' :: r => isBaseInteger 2 (fun c => c == '0' || c == '1') r
  | cs => isDecimalInteger cs

/-- The number with the digits `ds`, times ten to the power of `e`, is below all that round to
infinity in double precision. -/
def isFinite (ds : List Char) (e : Int) : Bool :=
  let m := baseValue 10 ds
  let size := (Nat.toDigits 10 m).length + e
  let bound := Nat.pow 2 1024 - Nat.pow 2 970
  if m = 0 ∨ size < 309 then true
  else if 310 < size then false
  else if 0 ≤ e then m * Nat.pow 10 e.toNat < bound
  else m < bound * Nat.pow 10 (-e).toNat

/-- The exponent behind its letter. -/
def exponent? (cs : List Char) : Option Int :=
  let (negative, cs) := splitSign cs
  (plainDigits? Char.isDigit cs).map fun ds =>
    if negative then -(baseValue 10 ds : Int) else baseValue 10 ds

/-- The text is a number with a point or an exponent. -/
def isFraction (cs : List Char) : Bool :=
  let (_, cs) := splitSign cs
  let (significand, exponent) :=
    match splitAt? (fun c => c == 'e' || c == 'E') cs with
    | some (a, b) => (a, some b)
    | none => (cs, none)
  let e := match exponent with
    | some b => exponent? b
    | none => some 0
  match splitAt? (· == '.') significand, exponent, e with
  | some (w, f), _, some e =>
    match wholeDigits? w, plainDigits? Char.isDigit f with
    | some w, some f => isFinite (w ++ f) (e - f.length)
    | _, _ => false
  | none, some _, some e =>
    match wholeDigits? significand with
    | some w => isFinite w e
    | none => false
  | _, _, _ => false

/-- The text is infinity or not a number. -/
def isSpecial (cs : List Char) : Bool :=
  let word := String.ofList (splitSign cs).2
  word == "inf" || word == "nan"

/-- The text is a number. -/
def isNumber (cs : List Char) : Bool :=
  isInteger cs || isFraction cs || isSpecial cs

/-! ## Dates and times -/

/-- The value of two digits. -/
def two? (a b : Char) : Option Nat :=
  if a.isDigit && b.isDigit then some (digitsValue [a, b]) else none

/-- The year has a leap day. -/
def isLeapYear (y : Nat) : Bool :=
  (y % 4 == 0 && y % 100 != 0) || y % 400 == 0

/-- The days of a month. -/
def daysOf (year month : Nat) : Nat :=
  if month = 2 then if isLeapYear year then 29 else 28
  else if month = 4 ∨ month = 6 ∨ month = 9 ∨ month = 11 then 30
  else 31

/-- What follows a date. -/
def date? : List Char → Option (List Char)
  | a :: b :: c :: d :: '-' :: e :: f :: '-' :: g :: h :: r => do
    let y := 100 * (← two? a b) + (← two? c d)
    let m ← two? e f
    let n ← two? g h
    if 1 ≤ m ∧ m ≤ 12 ∧ 1 ≤ n ∧ n ≤ daysOf y m then some r else none
  | _ => none

/-- What follows the seconds of a time, which may be missing. -/
def seconds? : List Char → Option (List Char)
  | ':' :: a :: b :: r => do
    if 60 < (← two? a b) then none
    else
      match r with
      | '.' :: d :: r => if d.isDigit then some (r.dropWhile Char.isDigit) else none
      | r => some r
  | cs => some cs

/-- What follows a time. A minute may have a leap second. -/
def time? : List Char → Option (List Char)
  | a :: b :: ':' :: c :: d :: r => do
    if 24 ≤ (← two? a b) ∨ 60 ≤ (← two? c d) then none else seconds? r
  | _ => none

/-- The text is the offset of a time zone. -/
def isOffset : List Char → Bool
  | ['Z'] => true
  | ['z'] => true
  | [s, a, b, ':', c, d] =>
    (s == '+' || s == '-') && (two? a b).any (· < 24) && (two? c d).any (· < 60)
  | _ => false

/-- The text is a date, a time, or both. Only with a date may a time have an offset. -/
def isMoment (cs : List Char) : Bool :=
  match date? cs with
  | some [] => true
  | some (s :: r) =>
    (s == 'T' || s == 't' || s == ' ') &&
      (match time? r with
      | some [] => true
      | some z => isOffset z
      | none => false)
  | none => time? cs == some []

end ArchivalBag.Toml

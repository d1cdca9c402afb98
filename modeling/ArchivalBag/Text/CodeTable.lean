import ArchivalBag.Text.Hex
import ArchivalBag.Text.Split

/-!
# Tables of characters

A table says something about runs of code points. It is written as lines that name the runs in
ascending order, with blanks between them, by the hexadecimal numbers of their ends: `41-5A AA` are
the capitals of ASCII and the feminine ordinal. `100-12E/2` is a run that holds every second code
point only, and behind `>` stand the numbers that the table has for a run, as in `300-314>E6` or
`E4>61+308`.

* `CodeTable.ofLines`: the table of some lines.
* `CodeTable.find?`: the run a character belongs to; `CodeTable.at?` is the same for a number.
* `CodeTable.holds`: the character belongs to a run.
-/

namespace ArchivalBag.Text

/-- Every `step`-th code point from `first` to `last`, and the numbers for them. -/
structure CodeRun where
  first : Nat
  last : Nat
  step : Nat
  numbers : List Nat
  deriving DecidableEq, Repr

namespace CodeRun

/-- The code point belongs to the run. -/
def has (r : CodeRun) (n : Nat) : Bool :=
  r.first ≤ n && n ≤ r.last && (n - r.first) % r.step == 0

/-- The number that some digits stand for. -/
def number (cs : List Char) : Nat :=
  (hexNumber? cs).getD 0

/-- The run that a text names, with its numbers. -/
def ofPlaces (cs : List Char) (numbers : List Nat) : CodeRun :=
  match splitAt? (· == '-') cs with
  | none => ⟨number cs, number cs, 1, numbers⟩
  | some (a, r) =>
    match splitAt? (· == '/') r with
    | none => ⟨number a, number r, 1, numbers⟩
    | some (b, s) => ⟨number a, number b, number s, numbers⟩

/-- The run of a text. -/
def ofText (cs : List Char) : CodeRun :=
  match splitAt? (· == '>') cs with
  | none => ofPlaces cs []
  | some (places, numbers) => ofPlaces places ((splitBy (· == '+') numbers).map number)

/-- The characters that a run leads a character of it to: the first one to the numbers of the run, and
the others as much further as they are behind the first. -/
def image (r : CodeRun) (n : Nat) : List Char :=
  r.numbers.map fun m => Char.ofNat (m + (n - r.first))

end CodeRun

/-- Runs in ascending order. -/
structure CodeTable where
  runs : Array CodeRun

namespace CodeTable

/-- The table of the lines of a text. -/
def ofLines (lines : List String) : CodeTable :=
  ⟨(lines.flatMap fun l => (splitBy (· == ' ') l.toList).map CodeRun.ofText).toArray⟩

/-- The last of the runs from `lo` up to `hi` that does not start behind `n`, if the one at `lo` does
not; else that one. -/
def lastUpTo (runs : Array CodeRun) (n lo hi : Nat) : Option CodeRun :=
  if hi ≤ lo + 1 then runs[lo]?
  else
    match runs[(lo + hi) / 2]? with
    | none => none
    | some r =>
      if r.first ≤ n then lastUpTo runs n ((lo + hi) / 2) hi
      else lastUpTo runs n lo ((lo + hi) / 2)
termination_by hi - lo

/-- The run a number belongs to. -/
def at? (t : CodeTable) (n : Nat) : Option CodeRun :=
  (lastUpTo t.runs n 0 t.runs.size).filter fun r => r.has n

/-- The run a character belongs to. -/
def find? (t : CodeTable) (c : Char) : Option CodeRun :=
  t.at? c.toNat

/-- The character belongs to a run. -/
def holds (t : CodeTable) (c : Char) : Bool :=
  (t.find? c).isSome

end CodeTable

end ArchivalBag.Text

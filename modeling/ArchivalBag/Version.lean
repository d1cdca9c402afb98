import ArchivalBag.Text.Decimal
import ArchivalBag.Text.Split

/-!
# Versions of the bag format

A bag declares the version of the format it follows as two numbers with a dot between them. A
further dot and whatever follows it are not looked at.

* `Version.parse`: the version a token stands for, or why it stands for none.
* `Version.text`: the token of a version.
* `Version.parse_text`: the token of a version stands for it.
-/

namespace ArchivalBag

open Text

/-- A version of the bag format. -/
structure Version where
  major : UInt64
  minor : UInt64
  deriving DecidableEq, Repr, Inhabited

namespace Version

/-- The two numbers of a version. -/
inductive Part where
  | major
  | minor
  deriving DecidableEq, Repr

/-- The part's name in messages. -/
def Part.label : Part → String
  | .major => "major"
  | .minor => "minor"

/-- Why a token is not a version. -/
inductive Fault where
  /-- There is no dot. -/
  | noDot
  /-- A part is not a number of 64 bits. -/
  | badPart (part : Part) (segment : String) (fault : DecimalFault)
  /-- A reason in other words, for tokens that were judged elsewhere. -/
  | stated (reason : String)
  deriving DecidableEq, Repr

/-- The wording of a fault. -/
def Fault.message : Fault → String
  | .noDot => "expected MAJOR.MINOR"
  | .badPart p s .notDigits =>
    p.label ++ " component '" ++ s ++ "' is not a non-negative integer"
  | .badPart p s .tooLarge =>
    p.label ++ " component '" ++ s ++ "': " ++ "number too large to fit in target type"
  | .stated reason => reason

/-- The number a segment stands for. -/
def parsePart (part : Part) (segment : List Char) : Except Fault UInt64 :=
  match readWord segment with
  | .ok n => .ok n
  | .error f => .error (.badPart part (String.ofList segment) f)

/-- The characters in front of the first dot, or all of them. -/
def untilDot (cs : List Char) : List Char :=
  match splitAt? (· == '.') cs with
  | some (a, _) => a
  | none => cs

/-- The version a token stands for: the number before the first dot and the number between the first
dot and the second one, if there is a second one. -/
def parse (token : String) : Except Fault Version :=
  match splitAt? (· == '.') token.toList with
  | none => .error .noDot
  | some (a, rest) =>
    match parsePart .major a with
    | .error f => .error f
    | .ok major =>
      match parsePart .minor (untilDot rest) with
      | .error f => .error f
      | .ok minor => .ok ⟨major, minor⟩

/-- The token of a version. -/
def text (v : Version) : String :=
  String.ofList (writeWord v.major ++ '.' :: writeWord v.minor)

theorem beq_dot_eq_false {n : UInt64} : ∀ c ∈ writeWord n, (c == '.') = false := by
  intro c hc
  have := isDigit_of_mem_writeWord hc
  cases h : c == '.'
  · rfl
  · rw [beq_iff_eq.1 h] at this
    exact absurd this (by decide)

theorem parse_text (v : Version) : parse v.text = .ok v := by
  have hm : splitAt? (· == '.') (writeWord v.minor) = none :=
    splitAt?_eq_none_iff.2 beq_dot_eq_false
  simp [parse, text, splitAt?_append beq_dot_eq_false, parsePart, readWord_writeWord, untilDot, hm]

/-- Versions are ordered by the first number, then by the second. -/
def order (a b : Version) : Ordering :=
  (compare a.major b.major).then (compare a.minor b.minor)

/-- The message for a token that is not a version. -/
def malformedMessage (token : String) (fault : Fault) : String :=
  "Malformed version '" ++ token ++ "': " ++ fault.message

end Version

end ArchivalBag

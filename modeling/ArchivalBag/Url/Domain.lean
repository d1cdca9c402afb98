import ArchivalBag.Encoding.Utf8
import ArchivalBag.Text.Split
import ArchivalBag.Url.Domain.Compose
import ArchivalBag.Url.Domain.Direction
import ArchivalBag.Url.Domain.Fold
import ArchivalBag.Url.Domain.Joiner
import ArchivalBag.Url.Domain.Punycode

/-!
# Domains

A domain is a row of labels with dots between them. Its characters are folded and composed first; a
label with characters outside ASCII is then written in its ASCII form, and a label that comes in an
ASCII form has to be the form of a label that is folded and composed already.

* `Domain.toAscii?`: the ASCII form of a domain given by its UTF-8 bytes, if it has one.
-/

namespace ArchivalBag.Url.Domain

open Text

/-- ASCII characters that no domain holds. -/
def isForbidden (c : Char) : Bool :=
  c.toNat ≤ 32 || c.toNat == 127 || "%#/:<>?@[\\]^|".toList.contains c

/-- All characters are in ASCII. -/
def isAscii (cs : List Char) : Bool :=
  cs.all fun c => c.toNat < 128

/-- What the ASCII form of a label starts with. -/
def asciiMark : List Char := ['x', 'n', '-', '-']

/-- The most characters of a label with characters outside ASCII. -/
def maxLength : Nat := 1000

/-- The most characters of the ASCII form of a label behind its mark. -/
def maxFormLength : Nat := 2000

/-- A label that is folded and composed. -/
def isNormal (cs : List Char) : Bool :=
  cs.all (fun c => fold? c == some [c]) && compose cs == cs

/-- A folded label with characters outside ASCII may stand in a domain: it does not start with a mark,
its joiners fit, and it is not too long. -/
def mayStand (cs : List Char) : Bool :=
  !(cs.head?.any isMark) && joinersFit cs && cs.length ≤ maxLength

/-- A label of a domain, and its ASCII form. -/
structure Label where
  text : List Char
  form : List Char

/-- The label of a folded text. -/
def Label.ofFolded? (cs : List Char) : Option Label :=
  match dropFront? asciiMark cs with
  | some form =>
    match (if form.length ≤ maxFormLength then Punycode.decode? form else none) with
    | some u =>
      if isAscii cs && !isAscii u && isNormal u && mayStand u then some ⟨u, cs⟩ else none
    | none => none
  | none =>
    if isAscii cs then some ⟨cs, cs⟩
    else if mayStand cs then some ⟨cs, asciiMark ++ Punycode.encode cs⟩
    else none

/-- The labels of a domain: if one of them holds a character that runs to the left, each of them runs
one way. -/
def labels? (cs : List Char) : Option (List Label) := do
  let ls ← (splitBy (· == '.') cs).mapM Label.ofFolded?
  if ls.any (fun l => runsLeft l.text) && !ls.all (fun l => runsOneWay l.text) then none
  else some ls

/-- The ASCII form of a domain. -/
def toAscii? (bytes : List UInt8) : Option (List Char) := do
  let text ← Encoding.Utf8.decode? bytes
  let folded ← text.toList.mapM fold?
  let flat := folded.flatten
  let labels ← labels? (if isAscii flat then flat else compose flat)
  let domain := joinWith ['.'] (labels.map Label.form)
  if domain.any isForbidden then none else some domain

end ArchivalBag.Url.Domain

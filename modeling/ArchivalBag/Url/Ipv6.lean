import ArchivalBag.Text.Hex
import ArchivalBag.Text.Split

/-!
# IPv6 addresses in hosts

Eight pieces of sixteen bits in hexadecimal, with colons between them. Two colons in a row stand for
as many zero pieces as are missing, and the last two pieces may be written like an IPv4 address.

* `read?`: the address a text stands for.
* `text`: the pieces of an address, with the first of the longest runs of at least two zero pieces
  left out.
-/

namespace ArchivalBag.Url.Ipv6

open Text

/-- The digits of one piece: at most four. -/
def pieceDigits : Nat → List Char → List Nat × List Char
  | 0, cs => ([], cs)
  | _, [] => ([], [])
  | k + 1, c :: cs =>
    match Text.hexValue? c with
    | none => ([], c :: cs)
    | some d =>
      let (ds, r) := pieceDigits k cs
      (d :: ds, r)

theorem pieceDigits_length (k : Nat) (cs : List Char) :
    (pieceDigits k cs).2.length ≤ cs.length := by
  fun_induction pieceDigits k cs <;> simp_all
  omega

/-- The value of hexadecimal digits. -/
def hexNumber (ds : List Nat) : Nat :=
  ds.foldl (fun n d => 16 * n + d) 0

/-- A byte in decimal, without leading zeros. -/
def byte? (cs : List Char) : Option Nat :=
  if cs.isEmpty || !cs.all Char.isDigit then none
  else if cs.head? == some '0' && 1 < cs.length then none
  else
    let n := Nat.ofDigitChars 10 cs 0
    if n < 256 then some n else none

/-- The two pieces written like an IPv4 address. -/
def embedded? (cs : List Char) : Option (List Nat) :=
  match (splitBy (· == '.') cs).mapM byte? with
  | some [a, b, c, d] => some [256 * a + b, 256 * c + d]
  | _ => none

/-- What a reader of pieces has seen: the pieces before the two colons and, if these came, the pieces
after them. -/
structure Seen where
  front : List Nat
  back : Option (List Nat)

/-- The number of places that are taken; two colons take one. -/
def Seen.places (s : Seen) : Nat :=
  s.front.length + (match s.back with | none => 0 | some b => b.length + 1)

/-- One more piece. -/
def Seen.add (s : Seen) (ps : List Nat) : Seen :=
  match s.back with
  | none => { s with front := s.front ++ ps }
  | some b => { s with back := some (b ++ ps) }

/-- The eight pieces, if there are exactly so many or the two colons fill up the rest. -/
def Seen.finish? (s : Seen) : Option (List Nat) :=
  match s.back with
  | none => if s.front.length = 8 then some s.front else none
  | some b => some (s.front ++ List.replicate (8 - s.front.length - b.length) 0 ++ b)

/-- The rest of the pieces, at the start of a piece or at the second of two colons. -/
def readPieces (s : Seen) (cs : List Char) : Option (List Nat) :=
  match cs with
  | [] => s.finish?
  | ':' :: r =>
    if s.places = 8 ∨ s.back.isSome then none
    else readPieces { s with back := some [] } r
  | c :: r =>
    if s.places = 8 then none
    else
      let p := pieceDigits 4 (c :: r)
      match _h : p.2 with
      | [] => (s.add [hexNumber p.1]).finish?
      | '.' :: _ =>
        if p.1.isEmpty ∨ 6 < s.places then none
        else (embedded? (c :: r)).bind fun ps => (s.add ps).finish?
      | ':' :: [] => none
      | ':' :: r' => readPieces (s.add [hexNumber p.1]) r'
      | _ :: _ => none
termination_by cs.length
decreasing_by
  · simp
  · have := pieceDigits_length 4 (c :: r)
    simp only [p] at _h
    rw [_h] at this
    simp at this ⊢
    omega

/-- The address a text stands for. -/
def read? (cs : List Char) : Option (List Nat) :=
  match cs with
  | ':' :: ':' :: r => readPieces ⟨[], some []⟩ r
  | ':' :: _ => none
  | [] => none
  | [_] => none
  | cs => readPieces ⟨[], none⟩ cs

/-- The number of zero pieces an address starts with. -/
def zeros : List Nat → Nat
  | 0 :: r => zeros r + 1
  | _ => 0

/-- Where the first of the longest runs of zero pieces starts, and how long it is. -/
def longestZeros : Nat → List Nat → Nat × Nat
  | _, [] => (0, 0)
  | i, p :: ps =>
    let here := zeros (p :: ps)
    let later := longestZeros (i + 1) ps
    if later.2 ≤ here then (i, here) else later

/-- Pieces with colons between them. -/
def piecesText (ps : List Nat) : List Char :=
  joinWith [':'] (ps.map (Nat.toDigits 16))

/-- The text of an address. -/
def text (ps : List Nat) : List Char :=
  let z := longestZeros 0 ps
  if z.2 < 2 then piecesText ps
  else piecesText (ps.take z.1) ++ ':' :: ':' :: piecesText (ps.drop (z.1 + z.2))

end ArchivalBag.Url.Ipv6

/-!
# Punycode

A label with characters outside ASCII is written with ASCII letters and digits: its ASCII characters
in order, a hyphen, and then, for each of the others from the smallest on, how far the machine that
inserts them has to move. Distances are numbers in base 36 whose digits say themselves which of them
is the last; the bound for that adapts to the distances seen so far.

* `encode`: the ASCII form of a label.
* `decode?`: the label of an ASCII form.
-/

namespace ArchivalBag.Url.Domain.Punycode

/-- The character of a digit. -/
def digitChar (d : Nat) : Char :=
  if d < 26 then Char.ofNat (97 + d) else Char.ofNat (22 + d)

/-- The digit of a character. -/
def digit? (c : Char) : Option Nat :=
  let n := c.toNat
  if 97 ≤ n && n ≤ 122 then some (n - 97)
  else if 65 ≤ n && n ≤ 90 then some (n - 65)
  else if 48 ≤ n && n ≤ 57 then some (n - 22)
  else none

/-- The bound under which the `k`-th digit of a distance is the last one. -/
def threshold (k bias : Nat) : Nat :=
  if k ≤ bias then 1 else if bias + 26 ≤ k then 26 else k - bias

theorem one_le_threshold (k bias : Nat) : 1 ≤ threshold k bias := by
  unfold threshold; split <;> (try split) <;> omega

theorem threshold_le (k bias : Nat) : threshold k bias ≤ 26 := by
  unfold threshold; split <;> (try split) <;> omega

/-- The scaled distance, and the steps of the scaling. -/
def scale (delta k : Nat) : Nat × Nat :=
  if 455 < delta then scale (delta / 35) (k + 36) else (delta, k)
termination_by delta
decreasing_by omega

/-- The bias after a distance, when `count` characters are in place. -/
def adapt (delta count : Nat) (first : Bool) : Nat :=
  let d := if first then delta / 700 else delta / 2
  let (d, k) := scale (d + d / count) 0
  k + 36 * d / (d + 38)

/-- The digits of a distance. -/
def distanceDigits (bias k q : Nat) : List Char :=
  let t := threshold k bias
  if q < t then [digitChar q]
  else digitChar (t + (q - t) % (36 - t)) :: distanceDigits bias (k + 36) ((q - t) / (36 - t))
termination_by q
decreasing_by
  have h₁ := one_le_threshold k bias
  have h₂ := threshold_le k bias
  calc (q - threshold k bias) / (36 - threshold k bias)
      ≤ q - threshold k bias := Nat.div_le_self _ _
    _ < q := by omega

/-- A writer under way: the digits written, the distance since the last insertion, the bias, and how
many characters are in place. -/
structure Writer where
  out : List Char
  delta : Nat
  bias : Nat
  count : Nat

/-- Passing the character `c` of the label when the characters `m` are being inserted. -/
def Writer.pass (w : Writer) (basic m : Nat) (c : Char) : Writer :=
  if c.toNat < m then { w with delta := w.delta + 1 }
  else if c.toNat = m then
    { out := w.out ++ distanceDigits w.bias 36 w.delta
      delta := 0
      bias := adapt w.delta (w.count + 1) (w.count == basic)
      count := w.count + 1 }
  else w

/-- Inserting the characters `ms`, when all characters below `n` are in place. -/
def Writer.run (cs : List Char) (basic n : Nat) (w : Writer) : List Nat → Writer
  | [] => w
  | m :: ms =>
    let w := cs.foldl (fun w c => w.pass basic m c)
      { w with delta := w.delta + (m - n) * (w.count + 1) }
    Writer.run cs basic (m + 1) { w with delta := w.delta + 1 } ms

/-- A number put into an ascending list, unless it is there. -/
def insertNat (m : Nat) : List Nat → List Nat
  | [] => [m]
  | n :: r => if m < n then m :: n :: r else if m = n then n :: r else n :: insertNat m r

/-- The ASCII form of a label. -/
def encode (cs : List Char) : List Char :=
  let basic := cs.filter fun c => c.toNat < 128
  let wide := (cs.filter fun c => 128 ≤ c.toNat).foldr (fun c l => insertNat c.toNat l) []
  let w := Writer.run cs basic.length 128 ⟨[], 0, 72, basic.length⟩ wide
  basic ++ (if basic.isEmpty then [] else ['-']) ++ w.out

/-- A reader under way: the label so far, the character to insert next, the place reached, the place
where the distance began, the weight and the number of its next digit, and the bias. -/
structure Reader where
  out : List Char
  next : Nat
  reached : Nat
  start : Nat
  weight : Nat
  step : Nat
  bias : Nat

/-- Reading one digit. -/
def Reader.read? (s : Reader) (c : Char) : Option Reader := do
  let d ← digit? c
  let reached := s.reached + d * s.weight
  let t := threshold s.step s.bias
  if t ≤ d then
    return { s with reached := reached, weight := s.weight * (36 - t), step := s.step + 36 }
  let len := s.out.length + 1
  let n := s.next + reached / len
  if 0x10FFFF < n ∨ (0xD800 ≤ n ∧ n < 0xE000) then none
  else
    let place := reached % len
    some
      { out := s.out.take place ++ Char.ofNat n :: s.out.drop place
        next := n
        reached := place + 1
        start := place + 1
        weight := 1
        step := 36
        bias := adapt (reached - s.start) len (s.start == 0) }

/-- The text before and after the last hyphen; without one, everything comes after it. -/
def splitHyphen (cs : List Char) : List Char × List Char :=
  let back := cs.reverse.span (· != '-')
  match back.2 with
  | [] => ([], cs)
  | _ :: front => (front.reverse, back.1.reverse)

/-- The label of an ASCII form. -/
def decode? (cs : List Char) : Option (List Char) :=
  let (basic, digits) := splitHyphen cs
  if cs.head? == some '-' && basic.isEmpty then none
  else
    match digits.foldlM Reader.read? ⟨basic, 128, 0, 0, 1, 36, 72⟩ with
    | some s => if s.step = 36 then some s.out else none
    | none => none

end ArchivalBag.Url.Domain.Punycode

import ArchivalBag.Text.Hex
import ArchivalBag.Text.Split

/-!
# IPv4 addresses in hosts

A host whose last label is a number is an IPv4 address: one to four numbers, each decimal, octal
(with a leading zero) or hexadecimal (with a leading `0x`), of which the last fills all bytes that
the others leave.

* `endsInNumber`: the host has to be read as an address.
* `read?`: the address a host stands for.
* `text`: the four bytes of an address.
-/

namespace ArchivalBag.Url.Ipv4

open Text

/-- A number in some base. -/
def valueIn (base : Nat) (digit? : Char → Option Nat) : List Char → Option Nat :=
  fun cs => cs.foldl (fun acc c => do
    let n ← acc
    let d ← digit? c
    if d < base then some (base * n + d) else none) (some 0)

/-- The number a label stands for. -/
def number? : List Char → Option Nat
  | [] => none
  | '0' :: 'x' :: r => valueIn 16 Text.hexValue? r
  | '0' :: 'X' :: r => valueIn 16 Text.hexValue? r
  | '0' :: d :: r => valueIn 8 Text.hexValue? (d :: r)
  | cs => valueIn 10 Text.hexValue? cs

/-- The labels of a host. -/
def labels (host : List Char) : List (List Char) :=
  splitBy (· == '.') host

/-- The labels without an empty one at the end. -/
def trimmedLabels (host : List Char) : List (List Char) :=
  let ls := labels host
  if ls.getLast? = some [] then ls.dropLast else ls

/-- The last label of the host, not counting an empty one at the very end, is a number. -/
def endsInNumber (host : List Char) : Bool :=
  match (trimmedLabels host).getLast? with
  | none => false
  | some l => (!l.isEmpty && l.all Char.isDigit) || (number? l).isSome

/-- The address given by the numbers of its labels. -/
def ofNumbers? : List Nat → Option UInt32
  | [a] => if a < 0x100000000 then some (UInt32.ofNat a) else none
  | [a, b] =>
    if a < 256 ∧ b < 0x1000000 then some (UInt32.ofNat (a * 0x1000000 + b)) else none
  | [a, b, c] =>
    if a < 256 ∧ b < 256 ∧ c < 0x10000 then
      some (UInt32.ofNat (a * 0x1000000 + b * 0x10000 + c)) else none
  | [a, b, c, d] =>
    if a < 256 ∧ b < 256 ∧ c < 256 ∧ d < 256 then
      some (UInt32.ofNat (a * 0x1000000 + b * 0x10000 + c * 0x100 + d)) else none
  | _ => none

/-- The address a host stands for. -/
def read? (host : List Char) : Option UInt32 :=
  ((trimmedLabels host).mapM number?).bind ofNumbers?

/-- The bytes of an address, the highest first. -/
def bytes (a : UInt32) : List Nat :=
  [a.toNat / 0x1000000, a.toNat / 0x10000 % 256, a.toNat / 0x100 % 256, a.toNat % 256]

/-- The bytes of an address in decimal, with dots between them. -/
def text (a : UInt32) : List Char :=
  joinWith ['.'] ((bytes a).map (Nat.toDigits 10))

end ArchivalBag.Url.Ipv4

import ArchivalBag.Encoding.Big5Set
import ArchivalBag.Encoding.Gb18030
import ArchivalBag.Encoding.Gb18030Ranges
import ArchivalBag.Encoding.Jis0208
import ArchivalBag.Encoding.Jis0212
import ArchivalBag.Encoding.UnifiedHangul

/-!
# Encodings of East Asia

ASCII characters take one byte, and two bytes tell the row and the place of a character in a
national set; some encodings have characters of three or four bytes besides. Bytes that lead to no
character make the text malformed.

* `decodeShiftJis?`, `decodeEucJp?`, `decodeIso2022Jp?`: the Japanese encodings.
* `decodeGb18030?`, `decodeEucKr?`, `decodeBig5?`: the Chinese and Korean ones.
-/

namespace ArchivalBag.Encoding

/-- A national set by rows and places. -/
abbrev Charset := Array (Array Char)

/-- The set of a table. -/
def Charset.ofRows (rows : List String) : Charset :=
  (rows.map fun r => r.toList.toArray).toArray

/-- The character at a place. -/
def Charset.at? (s : Charset) (row place : Nat) : Option Char :=
  match (s[row]?).bind (·[place]?) with
  | some c => if c.toNat = 0xFFFD then none else some c
  | none => none

/-- The number of a byte in a run of bytes, if it is one of them. -/
def between? (first last b : Nat) : Option Nat :=
  if first ≤ b ∧ b ≤ last then some (b - first) else none

/-- Katakana of half width, counted from the first. -/
def halfKatakana (n : Nat) : Char :=
  Char.ofNat (0xFF61 + n)

/-- The text of bytes of which `single?` reads one and `double?` reads two. -/
def decodeBy (single? : Nat → Option Char) (double? : Nat → Nat → Option (List Char)) :
    List UInt8 → Option (List Char)
  | [] => some []
  | a :: r =>
    match single? a.toNat with
    | some c => (decodeBy single? double? r).map (c :: ·)
    | none =>
      match r with
      | [] => none
      | b :: r =>
        match double? a.toNat b.toNat with
        | some cs => (decodeBy single? double? r).map (cs ++ ·)
        | none => none

/-- The bytes of ASCII stand for themselves. -/
def ascii? (n : Nat) : Option Char :=
  if n < 128 then some (Char.ofNat n) else none

/-! ## Japanese -/

/-- Where the characters for private use lie in Shift_JIS, counted over rows of 188 places. -/
def privatePlace? (n : Nat) : Option Nat :=
  between? 8836 10715 n

/-- Shift_JIS: two rows of the set share a first byte. Beyond the set there are characters for private
use. -/
def decodeShiftJis? : List UInt8 → Option (List Char) :=
  let set := Charset.ofRows Jis0208.rows
  decodeBy
    (fun n =>
      if n ≤ 0x80 then some (Char.ofNat n)
      else (between? 0xA1 0xDF n).map halfKatakana)
    (fun a b => do
      let lead ← (between? 0x81 0x9F a).or ((between? 0xE0 0xFC a).map (31 + ·))
      let trail ← (between? 0x40 0x7E b).or ((between? 0x80 0xFC b).map (63 + ·))
      let n := lead * 188 + trail
      match privatePlace? n with
      | some k => pure [Char.ofNat (0xE000 + k)]
      | none => (set.at? (n / 94) (n % 94)).map ([·]))

/-- EUC-JP: row and place, each with the high bit set; 0x8E announces katakana of half width, and 0x8F
a row and a place of the supplementary set. -/
def decodeEuc (set supplement : Charset) : List UInt8 → Option (List Char)
  | [] => some []
  | a :: r =>
    if a < 128 then (decodeEuc set supplement r).map (Char.ofNat a.toNat :: ·)
    else
      match r with
      | [] => none
      | b :: r =>
        if a = 0x8E then do
          let k ← between? 0xA1 0xDF b.toNat
          (decodeEuc set supplement r).map (halfKatakana k :: ·)
        else if a = 0x8F then
          match r with
          | [] => none
          | c :: r => do
            let row ← between? 0xA1 0xFE b.toNat
            let place ← between? 0xA1 0xFE c.toNat
            let ch ← supplement.at? row place
            (decodeEuc set supplement r).map (ch :: ·)
        else do
          let row ← between? 0xA1 0xFE a.toNat
          let place ← between? 0xA1 0xFE b.toNat
          let ch ← set.at? row place
          (decodeEuc set supplement r).map (ch :: ·)

@[inherit_doc decodeEuc]
def decodeEucJp? : List UInt8 → Option (List Char) :=
  decodeEuc (Charset.ofRows Jis0208.rows) (Charset.ofRows Jis0212.rows)

/-- What the bytes of ISO-2022-JP stand for at the moment. -/
inductive JisMode where
  | ascii
  | roman
  | katakana
  | double
  deriving DecidableEq

/-- The mode that an escape sequence switches to, by its second and third byte. -/
def JisMode.ofEscape? (a b : Nat) : Option JisMode :=
  if a = 0x28 ∧ b = 0x42 then some .ascii
  else if a = 0x28 ∧ b = 0x4A then some .roman
  else if a = 0x28 ∧ b = 0x49 then some .katakana
  else if a = 0x24 ∧ (b = 0x40 ∨ b = 0x42) then some .double
  else none

/-- The character of one byte in a mode with one byte per character. -/
def JisMode.single? (m : JisMode) (n : Nat) : Option Char :=
  match m with
  | .katakana => (between? 0x21 0x5F n).map halfKatakana
  | _ =>
    if 128 ≤ n ∨ n = 0x0E ∨ n = 0x0F ∨ n = 0x1B then none
    else if m = .roman ∧ n = 0x5C then some (Char.ofNat 0xA5)
    else if m = .roman ∧ n = 0x7E then some (Char.ofNat 0x203E)
    else some (Char.ofNat n)

/-- ISO-2022-JP from some mode on; `fresh` tells that nothing has been read since the last escape
sequence, which no second one may follow then. -/
def decodeJis (set : Charset) (m : JisMode) (fresh : Bool) : List UInt8 → Option (List Char)
  | [] => some []
  | a :: r =>
    if a.toNat = 0x1B then
      match r with
      | b :: c :: r =>
        match JisMode.ofEscape? b.toNat c.toNat with
        | some m => if fresh then none else decodeJis set m true r
        | none => none
      | _ => none
    else if m = .double then
      match r with
      | b :: r => do
        let row ← between? 0x21 0x7E a.toNat
        let place ← between? 0x21 0x7E b.toNat
        let ch ← set.at? row place
        (decodeJis set m false r).map (ch :: ·)
      | [] => none
    else
      match m.single? a.toNat with
      | some ch => (decodeJis set m false r).map (ch :: ·)
      | none => none

/-- ISO-2022-JP: escape sequences switch between ASCII and the sets. -/
def decodeIso2022Jp? : List UInt8 → Option (List Char) :=
  decodeJis (Charset.ofRows Jis0208.rows) .ascii false

/-! ## Chinese and Korean -/

/-- The number that four bytes of GB 18030 stand for. -/
def gbNumber? (a b c d : Nat) : Option Nat := do
  let a ← between? 0x81 0xFE a
  let b ← between? 0x30 0x39 b
  let c ← between? 0x81 0xFE c
  let d ← between? 0x30 0x39 d
  pure (((a * 10 + b) * 126 + c) * 10 + d)

/-- GB 18030 with some set: two bytes for a place in the set, or four for a number. -/
def decodeGb (set : Charset) : List UInt8 → Option (List Char)
  | [] => some []
  | a :: r =>
    if a < 128 then (decodeGb set r).map (Char.ofNat a.toNat :: ·)
    else if a = 128 then (decodeGb set r).map ('€' :: ·)
    else
      match r with
      | [] => none
      | b :: r =>
        if 0x30 ≤ b ∧ b ≤ 0x39 then
          match r with
          | c :: d :: r => do
            let n ← gbNumber? a.toNat b.toNat c.toNat d.toNat
            let ch ← Gb18030Ranges.char? n
            (decodeGb set r).map (ch :: ·)
          | _ => none
        else do
          let row ← between? 0x81 0xFE a.toNat
          let place ←
            (between? 0x40 0x7E b.toNat).or ((between? 0x80 0xFE b.toNat).map (63 + ·))
          let ch ← set.at? row place
          (decodeGb set r).map (ch :: ·)

/-- GBK and GB 18030, which are read in the same way. -/
def decodeGb18030? : List UInt8 → Option (List Char) :=
  decodeGb (Charset.ofRows Gb18030.rows)

/-- EUC-KR: the place is told by a byte of one of three ranges. -/
def decodeEucKr? : List UInt8 → Option (List Char) :=
  let set := Charset.ofRows UnifiedHangul.rows
  decodeBy ascii? fun a b => do
    let row ← between? 0x81 0xFE a
    let place ← ((between? 0x41 0x5A b).or ((between? 0x61 0x7A b).map (26 + ·))).or
      ((between? 0x81 0xFE b).map (52 + ·))
    let ch ← set.at? row place
    pure [ch]

/-- The places of Big5 that hold a letter with a mark for which there is no single character. -/
def big5Pairs : List ((Nat × Nat) × List Char) := [
  ((0x88, 0x62), ['Ê', '\u0304']), ((0x88, 0x64), ['Ê', '\u030c']),
  ((0x88, 0xA3), ['ê', '\u0304']), ((0x88, 0xA5), ['ê', '\u030c'])]

/-- Big5: the place is told by a byte of one of two ranges. -/
def decodeBig5? : List UInt8 → Option (List Char) :=
  let set := Charset.ofRows Big5Set.rows
  decodeBy ascii? fun a b =>
    match big5Pairs.lookup (a, b) with
    | some cs => some cs
    | none => do
      let row ← between? 0x87 0xFE a
      let place ← (between? 0x40 0x7E b).or ((between? 0xA1 0xFE b).map (63 + ·))
      let ch ← set.at? row place
      pure [ch]

end ArchivalBag.Encoding

/-!
# Blank characters

The Unicode property `White_Space` as a table of code points, and the trimming of text by it. Every
field of a tag file is delimited by blanks in this sense, so a no-break space separates fields and a
zero width space does not.

* `isBlank`: membership in the property.
* `trimStart`, `trimEnd`, `trim`: the text without the blanks at its start, at its end, at both.
-/

namespace ArchivalBag.Text

/-- The 25 code points with the property `White_Space`. -/
def isBlank (c : Char) : Bool :=
  let n := c.toNat
  (9 ≤ n && n ≤ 13) || n == 0x20 || n == 0x85 || n == 0xA0 || n == 0x1680 ||
    (0x2000 ≤ n && n ≤ 0x200A) || n == 0x2028 || n == 0x2029 || n == 0x202F || n == 0x205F ||
    n == 0x3000

/-- The text without the blanks it starts with. -/
def trimStart (cs : List Char) : List Char :=
  cs.dropWhile isBlank

/-- The text without the blanks it ends with. -/
def trimEnd (cs : List Char) : List Char :=
  (cs.reverse.dropWhile isBlank).reverse

/-- The text without the blanks at either end. -/
def trim (cs : List Char) : List Char :=
  trimEnd (trimStart cs)

/-- The text does not start with a blank. -/
def StartsVisible : List Char → Prop
  | [] => True
  | c :: _ => isBlank c = false

theorem startsVisible_trimStart (cs : List Char) : StartsVisible (trimStart cs) := by
  induction cs with
  | nil => trivial
  | cons c r ih =>
    cases h : isBlank c with
    | true => simpa [trimStart, List.dropWhile_cons, h] using ih
    | false => simp [trimStart, h, StartsVisible]

theorem trimStart_eq_self {cs : List Char} (h : StartsVisible cs) : trimStart cs = cs := by
  cases cs with
  | nil => rfl
  | cons c r => simp [trimStart, show isBlank c = false from h]

theorem trimStart_blanks {ws : List Char} (h : ∀ c ∈ ws, isBlank c = true) (cs : List Char) :
    trimStart (ws ++ cs) = trimStart cs := by
  induction ws with
  | nil => rfl
  | cons w r ih =>
    have hw : isBlank w = true := h w List.mem_cons_self
    simpa [trimStart, List.dropWhile_cons, hw] using
      ih fun c hc => h c (List.mem_cons_of_mem _ hc)

end ArchivalBag.Text

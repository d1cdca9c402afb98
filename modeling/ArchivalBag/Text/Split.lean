import ArchivalBag.Text.Blank

/-!
# Cutting a text in two

* `splitAt? p`: the text before and after the first character with the property `p`.
* `splitOnce? sep`: the text before and after the first occurrence of `sep`. The empty separator
  occurs in front of every text.
* `nextField?`: a field that ends at a blank, and the text from the next visible character on.
-/

namespace ArchivalBag.Text

/-- The text before and after the first character with the property `p`. -/
def splitAt? (p : Char → Bool) : List Char → Option (List Char × List Char)
  | [] => none
  | c :: r =>
    if p c then some ([], r)
    else (splitAt? p r).map fun (a, b) => (c :: a, b)

theorem splitAt?_append {p : Char → Bool} {a : List Char} (ha : ∀ c ∈ a, p c = false) {c : Char}
    (hc : p c = true) (r : List Char) : splitAt? p (a ++ c :: r) = some (a, r) := by
  induction a with
  | nil => simp [splitAt?, hc]
  | cons d a ih =>
    simp only [List.mem_cons, forall_eq_or_imp] at ha
    simp [splitAt?, ha.1, ih ha.2]

theorem splitAt?_eq_none_iff {p : Char → Bool} {cs : List Char} :
    splitAt? p cs = none ↔ ∀ c ∈ cs, p c = false := by
  induction cs with
  | nil => simp [splitAt?]
  | cons c r ih =>
    simp only [splitAt?, List.mem_cons, forall_eq_or_imp]
    split
    · rename_i h; simp [h]
    · rename_i h; simp [h, ih]

/-- What follows `front` in a text that starts with it. -/
def dropFront? : List Char → List Char → Option (List Char)
  | [], cs => some cs
  | _ :: _, [] => none
  | f :: fs, c :: cs => if f = c then dropFront? fs cs else none

/-- The text before and after the first occurrence of `sep`. -/
def splitOnce? (sep : List Char) : List Char → Option (List Char × List Char)
  | [] => (dropFront? sep []).map fun r => ([], r)
  | c :: cs =>
    match dropFront? sep (c :: cs) with
    | some r => some ([], r)
    | none => (splitOnce? sep cs).map fun (a, b) => (c :: a, b)

/-- The pieces of a text between the characters with the property `p`; there is one more piece than
there are such characters. -/
def splitBy (p : Char → Bool) : List Char → List (List Char)
  | [] => [[]]
  | c :: r =>
    if p c then [] :: splitBy p r
    else
      match splitBy p r with
      | [] => [[c]]
      | q :: qs => (c :: q) :: qs

theorem splitBy_eq_splitOnP (p : Char → Bool) (cs : List Char) : splitBy p cs = cs.splitOnP p := by
  induction cs with
  | nil => rfl
  | cons c cs ih =>
    obtain ⟨q, qs, hq⟩ := List.exists_cons_of_ne_nil (List.splitOnP_ne_nil p cs)
    rw [splitBy, ih, List.splitOnP_cons_eq_if_modifyHead, hq, List.modifyHead_cons]

/-- The pieces joined again, with `sep` between them. -/
def joinWith (sep : List Char) : List (List Char) → List Char
  | [] => []
  | [p] => p
  | p :: ps => p ++ sep ++ joinWith sep ps

/-- The field before the first blank, which may not be empty, and what follows the blanks after it. -/
def nextField? (cs : List Char) : Option (List Char × List Char) :=
  match splitAt? isBlank cs with
  | none => none
  | some ([], _) => none
  | some (field, rest) => some (field, trimStart rest)

end ArchivalBag.Text

/-!
# Places in a text by bytes

A place in a text may be given by the number of bytes in front of it, as far as no character lies
across it.

* `dropBytes?`: the text behind a number of bytes.
* `takeBytes?`: the text in front of that place.
* `sliceBytes?`: the text between two places.
-/

namespace ArchivalBag.Text

/-- The text behind a number of bytes, unless they end within a character or the text is shorter. -/
def dropBytes? (n : Nat) (cs : List Char) : Option (List Char) :=
  if n = 0 then some cs
  else
    match cs with
    | [] => none
    | c :: r => if c.utf8Size ≤ n then dropBytes? (n - c.utf8Size) r else none
termination_by structural cs

/-- The text in front of that place. -/
def takeBytes? (n : Nat) (cs : List Char) : Option (List Char) :=
  if n = 0 then some []
  else
    match cs with
    | [] => none
    | c :: r => if c.utf8Size ≤ n then (takeBytes? (n - c.utf8Size) r).map (c :: ·) else none
termination_by structural cs

/-- The text between two places. -/
def sliceBytes? (first last : Nat) (cs : List Char) : Option (List Char) :=
  (dropBytes? first cs).bind (takeBytes? (last - first))

end ArchivalBag.Text

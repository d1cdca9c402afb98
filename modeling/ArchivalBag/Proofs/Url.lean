import ArchivalBag.Url
import ArchivalBag.Proofs.Text.Cut

/-!
# How the text of a URL starts

A URL starts with a letter, behind characters that do not count. So no text that starts with any other
character is that of a URL.

* `parse_eq_error_of_cons`: a character that no URL starts with.
-/

namespace ArchivalBag.Url

open Text

theorem exists_trimEdges_cons {c : Char} (h : isEdge c = false) (cs : List Char) :
    ∃ r, trimEdges (c :: cs) = c :: r := by
  have hd : (c :: cs).dropWhile isEdge = c :: cs := by
    rw [List.dropWhile_cons_of_neg (by simp [h])]
  unfold trimEdges
  rw [hd, List.reverse_cons]
  -- the walk from the end stops at `c` at the latest
  rw [List.dropWhile_append]
  split
  · exact ⟨[], by rw [List.dropWhile_cons_of_neg (by simp [h])]; rfl⟩
  · rw [List.reverse_append]
    exact ⟨_, rfl⟩

theorem splitScheme?_eq_none_of_cons {c : Char} (hc : c ≠ ':') (ha : c.isAlpha = false)
    (cs : List Char) : splitScheme? (c :: cs) = none := by
  unfold splitScheme?
  have hne : (c == ':') = false := by simpa using hc
  rw [splitAt?, hne]
  cases splitAt? (· == ':') cs with
  | none => rfl
  | some ab => simp [ha]

/-- **A character that no URL starts with.** -/
theorem parse_eq_error_of_cons {s : String} {c : Char} (hs : s.toList.head? = some c)
    (he : isEdge c = false) (hi : Path.isIgnored c = false) (hc : c ≠ ':')
    (ha : c.isAlpha = false) : parse s = .error .noScheme := by
  obtain ⟨cs, hcs⟩ := List.head?_eq_some_iff.1 hs
  obtain ⟨r, hr⟩ := exists_trimEdges_cons he cs
  have hstrip : Path.strip (c :: r) = c :: Path.strip r := by
    unfold Path.strip
    rw [List.filter_cons_of_pos (by simp [hi])]
  unfold parse
  rw [hcs, hr]
  dsimp only
  rw [hstrip, splitScheme?_eq_none_of_cons hc ha]

end ArchivalBag.Url

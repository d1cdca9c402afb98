import ArchivalBag.Proofs.Encoding.Utf16
import Mathlib.Data.List.Infix

/-!
# Byte order marks

The mark of an encoding in front of some bytes is dropped once and only by its own encoding. A second
one is a character of the text, and the marks of other encodings are bytes like all others.

* `body_mark_append`, `body_of_not_isPrefix`: what is dropped of the bytes of a file.
* `decodeFile?_mark_append`: a mark that is put in front of unmarked bytes does not change their text.
* `decodeFile?_mark_append_mark`: in front of marked bytes it is one more character.
* `decodeFile?_foreign_mark_append`: the mark of another encoding belongs to the text.
-/

namespace ArchivalBag

open Encoding

/-- The text with the character of a mark in front. -/
def withMark (s : String) : String :=
  String.ofList (markChar :: s.toList)

/-! ### The mark as a character -/

namespace Encoding.Utf8

/-- **The bytes of a character** in front of others stand for this character. -/
theorem decode?_utf8EncodeChar_append (c : Char) (b : List UInt8) :
    decode? (String.utf8EncodeChar c ++ b) = (decode? b).map fun s => String.ofList (c :: s.toList) := by
  -- bytes are well-formed exactly if they are those of a text, which has this character in front
  cases hb : decode? b with
  | some s =>
    rw [eq_encode_of_decode? hb, ← String.ofList_toList (s := s), ← encode_cons, decode?_encode]
    simp
  | none =>
    cases hcb : decode? (String.utf8EncodeChar c ++ b) with
    | none => rfl
    | some s =>
      have hs := eq_encode_of_decode? hcb
      cases hcs : s.toList with
      | nil =>
        unfold encode at hs
        rw [hcs] at hs
        exact absurd (List.append_eq_nil_iff.1 hs).1 String.utf8EncodeChar_ne_nil
      | cons d ds =>
        rw [← String.ofList_toList (s := s), hcs, encode_cons] at hs
        obtain rfl := eq_of_utf8EncodeChar_append hs
        rw [List.append_cancel_left hs, decode?_encode] at hb
        cases hb

end Encoding.Utf8

namespace Encoding.Utf16

/-- **The unit of the mark** in front of others stands for the mark. -/
theorem decode?_unitBytes_append (o : ByteOrder) (b : List UInt8) :
    decode? o (unitBytes o markChar.toNat ++ b) = (decode? o b).map (markChar :: ·) := by
  have hunits : (charUnits markChar).flatMap (unitBytes o) = unitBytes o markChar.toNat := by
    cases o <;> rfl
  rw [← hunits]
  exact decode?_charBytes_append markChar b

end Encoding.Utf16

namespace TextEncoding

theorem mark_utf16 (o : Utf16.ByteOrder) : mark (.utf16 o) = Utf16.unitBytes o markChar.toNat := by
  cases o <;> decide

/-- The encodings that have a mark. -/
theorem mark_ne_nil_iff {e : TextEncoding} : e.mark ≠ [] ↔ e = .utf8 ∨ ∃ o, e = .utf16 o := by
  refine ⟨fun h => ?_, ?_⟩
  · cases e with
    | utf8 => exact .inl rfl
    | utf16 o => exact .inr ⟨o, rfl⟩
    | _ => exact absurd rfl h
  · rintro (rfl | ⟨o, rfl⟩)
    · decide
    · cases o <;> decide

/-- **The bytes of a mark stand for the mark**, wherever they are not dropped. -/
theorem decode?_mark_append {e : TextEncoding} (h : e.mark ≠ []) (b : List UInt8) :
    e.decode? (e.mark ++ b) = (e.decode? b).map withMark := by
  obtain rfl | ⟨o, rfl⟩ := mark_ne_nil_iff.1 h
  · rw [mark_utf8]
    exact Utf8.decode?_utf8EncodeChar_append markChar b
  · have hd : ∀ b', decode? (utf16 o) b' = (Utf16.decode? o b').map String.ofList := fun _ => rfl
    rw [mark_utf16, hd, hd, Utf16.decode?_unitBytes_append, Option.map_map, Option.map_map]
    congr 1
    funext cs
    simp [withMark]

/-! ### What is dropped -/

theorem body_mark_append (e : TextEncoding) (b : List UInt8) : e.body (e.mark ++ b) = b := by
  rw [body, dropMark_append]
  rfl

theorem body_of_not_isPrefix {e : TextEncoding} {b : List UInt8} (h : ¬ e.mark <+: b) : e.body b = b := by
  rw [body]
  cases hd : dropMark e.mark b with
  | none => rfl
  | some rest => exact absurd ⟨rest, (eq_append_of_dropMark hd).symm⟩ h

/-- **A mark in front of unmarked bytes** does not change their text. -/
theorem decodeFile?_mark_append {e : TextEncoding} {b : List UInt8} (h : ¬ e.mark <+: b) :
    e.decodeFile? (e.mark ++ b) = e.decodeFile? b := by
  rw [decodeFile?, decodeFile?, body_mark_append, body_of_not_isPrefix h]

/-- **Only one mark is dropped**: in front of marked bytes another one is a character of the text. -/
theorem decodeFile?_mark_append_mark {e : TextEncoding} (he : e.mark ≠ []) {b : List UInt8}
    (h : e.mark <+: b) : e.decodeFile? (e.mark ++ b) = (e.decodeFile? b).map withMark := by
  obtain ⟨b, rfl⟩ := h
  rw [decodeFile?, decodeFile?, body_mark_append, body_mark_append, decode?_mark_append he]

/-- No mark starts with that of another encoding. -/
theorem not_mark_isPrefix {e e' : TextEncoding} (he : e.mark ≠ []) (he' : e'.mark ≠ []) (hne : e ≠ e')
    (b : List UInt8) : ¬ e.mark <+: e'.mark ++ b := by
  obtain rfl | ⟨o, rfl⟩ := mark_ne_nil_iff.1 he <;> obtain rfl | ⟨o', rfl⟩ := mark_ne_nil_iff.1 he'
  · exact absurd rfl hne
  · cases o' <;> simp [mark]
  · cases o <;> simp [mark]
  · cases o <;> cases o' <;> simp [mark] at hne ⊢

/-- **The mark of another encoding** belongs to the text. -/
theorem decodeFile?_foreign_mark_append {e e' : TextEncoding} (he' : e'.mark ≠ []) (hne : e ≠ e')
    (b : List UInt8) : e.decodeFile? (e'.mark ++ b) = e.decode? (e'.mark ++ b) := by
  rw [decodeFile?]
  by_cases he : e.mark = []
  · rw [body, he]
    rfl
  · rw [body_of_not_isPrefix (not_mark_isPrefix he he' hne b)]

end TextEncoding

end ArchivalBag

import ArchivalBag.Encoding.TextEncoding
import Mathlib.Data.List.Basic

/-!
# Texts stored in UTF-8

The bytes of a text stand for the text, and a file of these bytes has this text, unless the text starts
with a byte order mark of its own: this one is taken for the mark of the file.

* `Utf8.decode?_encode`: a text from its bytes.
* `Utf8.encode_lt_encode`: the order of texts is that of their bytes.
* `TextEncoding.decodeFile?_encode_iff`: a text from the file it was stored in.
-/

namespace ArchivalBag

open Encoding

/-- The character that marks the order of bytes. -/
def markChar : Char := '\uFEFF'

/-! ### Code points -/

namespace Encoding

theorem toNat_cases (c : Char) : c.toNat < 0xD800 ∨ 0xDFFF < c.toNat ∧ c.toNat < 0x110000 :=
  c.valid

theorem toNat_ofNat {n : Nat} (h : n < 0xD800 ∨ 0xDFFF < n ∧ n < 0x110000) :
    (Char.ofNat n).toNat = n := by
  rw [Char.ofNat, dif_pos h]
  rfl

end Encoding

/-! ### Bytes -/

namespace Encoding.Utf8

theorem encode_cons (c : Char) (cs : List Char) :
    encode (String.ofList (c :: cs)) = String.utf8EncodeChar c ++ encode (String.ofList cs) := by
  unfold encode
  rw [String.toList_ofList, String.toList_ofList, List.flatMap_cons]

theorem toByteArray_encode (s : String) : (encode s).toByteArray = s.toByteArray := by
  rw [← String.utf8Encode_toList]
  rfl

/-- **A text from its bytes.** -/
theorem decode?_encode (s : String) : decode? (encode s) = some s := by
  unfold decode?
  rw [toByteArray_encode, String.fromUTF8?, dif_pos s.isValidUTF8]
  rfl

theorem eq_encode_of_decode? {b : List UInt8} {s : String} (h : decode? b = some s) : b = encode s := by
  unfold decode? String.fromUTF8? at h
  split at h
  · have hs : s.toByteArray = b.toByteArray := by
      rw [← Option.some.inj h]
      rfl
    have hbytes := congrArg ByteArray.data ((toByteArray_encode s).trans hs)
    rw [List.data_toByteArray, List.data_toByteArray] at hbytes
    exact (List.toArray_inj hbytes).symm
  · cases h

/-- **A text from its bytes**, and from no others. -/
theorem decode?_eq_some_iff {b : List UInt8} {s : String} : decode? b = some s ↔ b = encode s := by
  refine ⟨eq_encode_of_decode?, ?_⟩
  rintro rfl
  exact decode?_encode s

/-- The bytes of a text start with those of its first character only. -/
theorem eq_of_utf8EncodeChar_append {c d : Char} {a b : List UInt8}
    (h : String.utf8EncodeChar c ++ a = String.utf8EncodeChar d ++ b) : c = d := by
  have hc : ((String.utf8EncodeChar c).toByteArray ++ a.toByteArray).utf8DecodeChar? 0 = some c :=
    ByteArray.utf8DecodeChar?_utf8EncodeChar_append
  rw [← List.toByteArray_append, h, List.toByteArray_append] at hc
  have hd : ((String.utf8EncodeChar d).toByteArray ++ b.toByteArray).utf8DecodeChar? 0 = some d :=
    ByteArray.utf8DecodeChar?_utf8EncodeChar_append
  rw [hd] at hc
  exact (Option.some.inj hc).symm

/-! ### The order of texts -/

theorem append_lt_append_left {a b : List UInt8} (l : List UInt8) (h : a < b) : l ++ a < l ++ b := by
  induction l with
  | nil => exact h
  | cons x l ih => exact List.cons_lt_cons_iff.2 (Or.inr ⟨rfl, ih⟩)

section Bytes
variable {m n : Nat} {a b : List UInt8} (hm : m < 256) (hn : n < 256)

include hm hn

theorem ofNat_cons_lt (h : m < n) : UInt8.ofNat m :: a < UInt8.ofNat n :: b := by
  refine List.cons_lt_cons_iff.2 (Or.inl ?_)
  rw [UInt8.lt_iff_toNat_lt, UInt8.toNat_ofNat_of_lt' hm, UInt8.toNat_ofNat_of_lt' hn]
  exact h

theorem ofNat_cons_lt_of_le (h : m ≤ n) (hab : m = n → a < b) :
    UInt8.ofNat m :: a < UInt8.ofNat n :: b := by
  rcases Nat.lt_or_eq_of_le h with hlt | rfl
  · exact ofNat_cons_lt hm hn hlt
  · exact List.cons_lt_cons_iff.2 (Or.inr ⟨rfl, hab rfl⟩)

end Bytes

/-- The bytes of a smaller character come first, whatever follows. -/
theorem utf8EncodeChar_append_lt {c d : Char} (h : c < d) (a b : List UInt8) :
    String.utf8EncodeChar c ++ a < String.utf8EncodeChar d ++ b := by
  have hcd : c.val.toNat < d.val.toNat := UInt32.lt_iff_toNat_lt.1 h
  have hd : d.val.toNat < 0xD800 ∨ 0xDFFF < d.val.toNat ∧ d.val.toNat < 0x110000 := toNat_cases d
  unfold String.utf8EncodeChar
  generalize c.val.toNat = m at hcd
  generalize d.val.toNat = n at hcd hd
  dsimp only
  -- by the numbers of bytes: with the same number the first byte that differs decides, else the first
  split_ifs
  all_goals simp only [List.cons_append, List.nil_append]
  · exact ofNat_cons_lt (by omega) (by omega) hcd
  · exact ofNat_cons_lt (by omega) (by omega) (by omega)
  · exact ofNat_cons_lt (by omega) (by omega) (by omega)
  · exact ofNat_cons_lt (by omega) (by omega) (by omega)
  · omega
  · exact ofNat_cons_lt_of_le (by omega) (by omega) (by omega) fun h₁ =>
      ofNat_cons_lt (by omega) (by omega) (by omega)
  · exact ofNat_cons_lt (by omega) (by omega) (by omega)
  · exact ofNat_cons_lt (by omega) (by omega) (by omega)
  · omega
  · omega
  · exact ofNat_cons_lt_of_le (by omega) (by omega) (by omega) fun h₁ =>
      ofNat_cons_lt_of_le (by omega) (by omega) (by omega) fun h₂ =>
        ofNat_cons_lt (by omega) (by omega) (by omega)
  · exact ofNat_cons_lt (by omega) (by omega) (by omega)
  · omega
  · omega
  · omega
  · exact ofNat_cons_lt_of_le (by omega) (by omega) (by omega) fun h₁ =>
      ofNat_cons_lt_of_le (by omega) (by omega) (by omega) fun h₂ =>
        ofNat_cons_lt_of_le (by omega) (by omega) (by omega) fun h₃ =>
          ofNat_cons_lt (by omega) (by omega) (by omega)

/-- **A smaller text has smaller bytes.** -/
theorem encode_lt_encode {s t : String} (h : s < t) : encode s < encode t := by
  have hlist : ∀ cs ds : List Char, cs < ds →
      cs.flatMap String.utf8EncodeChar < ds.flatMap String.utf8EncodeChar := by
    intro cs
    induction cs with
    | nil =>
      intro ds hds
      cases ds with
      | nil => exact absurd hds (List.lt_irrefl _)
      | cons d ds =>
        obtain ⟨x, xs, hx⟩ := List.exists_cons_of_ne_nil (String.utf8EncodeChar_ne_nil (c := d))
        rw [List.flatMap_cons, hx]
        exact List.nil_lt_cons _ _
    | cons c cs ih =>
      intro ds hds
      cases ds with
      | nil => exact absurd hds (List.not_lt_nil _)
      | cons d ds =>
        rw [List.flatMap_cons, List.flatMap_cons]
        rcases List.cons_lt_cons_iff.1 hds with hcd | ⟨rfl, hlt⟩
        · exact utf8EncodeChar_append_lt hcd _ _
        · exact append_lt_append_left _ (ih ds hlt)
  exact hlist s.toList t.toList (String.lt_iff.1 h)

end Encoding.Utf8

namespace TextEncoding

theorem eq_append_of_dropMark {mark bytes rest : List UInt8} (h : dropMark mark bytes = some rest) :
    bytes = mark ++ rest := by
  induction mark generalizing bytes with
  | nil =>
    unfold dropMark at h
    exact Option.some.inj h
  | cons m mark ih =>
    cases bytes with
    | nil => cases h
    | cons b bs =>
      rw [dropMark] at h
      split at h
      · rename_i hm
        rw [ih h, hm]; rfl
      · cases h

theorem mark_utf8 : mark .utf8 = String.utf8EncodeChar markChar := by
  decide

theorem body_utf8_encode {s : String} (h : s.toList.head? ≠ some markChar) :
    body .utf8 (Utf8.encode s) = Utf8.encode s := by
  unfold body
  cases hd : dropMark (mark .utf8) (Utf8.encode s) with
  | none => rfl
  | some rest =>
    have hs := eq_append_of_dropMark hd
    rw [mark_utf8] at hs
    cases hcs : s.toList with
    | nil =>
      unfold Utf8.encode at hs
      rw [hcs] at hs
      exact absurd (List.append_eq_nil_iff.1 hs.symm).1 String.utf8EncodeChar_ne_nil
    | cons c cs =>
      rw [← String.ofList_toList (s := s), hcs, Utf8.encode_cons] at hs
      rw [hcs] at h
      exact absurd (congrArg some (Utf8.eq_of_utf8EncodeChar_append hs)) h

theorem dropMark_append (mark bytes : List UInt8) : dropMark mark (mark ++ bytes) = some bytes := by
  induction mark with
  | nil => rfl
  | cons m mark ih => rw [List.cons_append, dropMark, if_pos rfl, ih]

theorem decodeFile?_encode {s : String} (h : s.toList.head? ≠ some markChar) :
    decodeFile? .utf8 (Utf8.encode s) = some s := by
  rw [decodeFile?, body_utf8_encode h]
  exact Utf8.decode?_encode s

/-- **A text from the file it was stored in.** -/
theorem decodeFile?_encode_iff {s : String} :
    decodeFile? .utf8 (Utf8.encode s) = some s ↔ s.toList.head? ≠ some markChar := by
  refine ⟨fun h hs => ?_, decodeFile?_encode⟩
  obtain ⟨cs, hcs⟩ := List.head?_eq_some_iff.1 hs
  have hbody : body .utf8 (Utf8.encode s) = Utf8.encode (String.ofList cs) := by
    rw [← String.ofList_toList (s := s), hcs, Utf8.encode_cons, body, mark_utf8, dropMark_append]
    rfl
  have hd : decodeFile? .utf8 (Utf8.encode s) = some (String.ofList cs) := by
    rw [decodeFile?, hbody]
    exact Utf8.decode?_encode _
  rw [hd, Option.some.injEq] at h
  have hlen := congrArg (fun s : String => s.toList.length) h
  rw [hcs] at hlen
  simp at hlen

end TextEncoding

end ArchivalBag

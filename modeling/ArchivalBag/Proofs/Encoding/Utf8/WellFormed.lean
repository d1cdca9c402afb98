import ArchivalBag.Proofs.Encoding.Utf8

/-!
# The grammar of UTF-8

Which bytes are those of a text: sequences of one to four bytes, each as short as its character allows,
of which none stands for a surrogate or for a number beyond the last plane.

* `IsChar`: the bytes of one character, by the range of each byte.
* `isChar_iff`: they are what a character is written as.
* `WellFormed`, `wellFormed_iff`: the bytes of texts.
-/

namespace ArchivalBag.Encoding.Utf8

/-- A byte that continues a character. -/
def IsTail (b : UInt8) : Prop :=
  0x80 ≤ b.toNat ∧ b.toNat ≤ 0xBF

/-- The bytes of one character. With two bytes the ranges leave out overlong forms by themselves. -/
inductive IsChar : List UInt8 → Prop
  | one {a : UInt8} (ha : a.toNat ≤ 0x7F) : IsChar [a]
  | two {a b : UInt8} (ha : 0xC2 ≤ a.toNat ∧ a.toNat ≤ 0xDF) (hb : IsTail b) : IsChar [a, b]
  | three {a b c : UInt8} (ha : 0xE0 ≤ a.toNat ∧ a.toNat ≤ 0xEF) (hb : IsTail b) (hc : IsTail c)
      (notOverlong : a.toNat = 0xE0 → 0xA0 ≤ b.toNat)
      (notSurrogate : a.toNat = 0xED → b.toNat ≤ 0x9F) : IsChar [a, b, c]
  | four {a b c d : UInt8} (ha : 0xF0 ≤ a.toNat ∧ a.toNat ≤ 0xF4) (hb : IsTail b) (hc : IsTail c)
      (hd : IsTail d) (notOverlong : a.toNat = 0xF0 → 0x90 ≤ b.toNat)
      (notBeyond : a.toNat = 0xF4 → b.toNat ≤ 0x8F) : IsChar [a, b, c, d]

/-! ### From characters to bytes -/

theorem toNat_byte {n : Nat} (h : n < 256) : (UInt8.ofNat n).toNat = n :=
  UInt8.toNat_ofNat_of_lt' h

theorem isTail_byte (n : Nat) : IsTail (UInt8.ofNat (n % 64 + 128)) := by
  rw [IsTail, toNat_byte (by omega)]
  omega

/-- **A character is written** as the grammar says. -/
theorem isChar_utf8EncodeChar (c : Char) : IsChar (String.utf8EncodeChar c) := by
  have hc : c.val.toNat < 0xD800 ∨ 0xDFFF < c.val.toNat ∧ c.val.toNat < 0x110000 := toNat_cases c
  unfold String.utf8EncodeChar
  generalize c.val.toNat = n at hc
  dsimp only
  split_ifs with h₁ h₂ h₃
  · refine .one ?_
    rw [toNat_byte (by omega)]
    exact h₁
  · refine .two ?_ (isTail_byte n)
    rw [toNat_byte (by omega)]
    omega
  · refine .three ?_ (isTail_byte (n / 64)) (isTail_byte n) ?_ ?_
    · rw [toNat_byte (by omega)]
      omega
    · rw [toNat_byte (by omega), toNat_byte (by omega)]
      omega
    · rw [toNat_byte (by omega), toNat_byte (by omega)]
      omega
  · refine .four ?_ (isTail_byte (n / 4096)) (isTail_byte (n / 64)) (isTail_byte n) ?_ ?_
    · rw [toNat_byte (by omega)]
      omega
    · rw [toNat_byte (by omega), toNat_byte (by omega)]
      omega
    · rw [toNat_byte (by omega), toNat_byte (by omega)]
      omega

/-! ### From bytes to characters -/

theorem byte_eq {n : Nat} {b : UInt8} (h : n = b.toNat) : UInt8.ofNat n = b := by
  rw [h, UInt8.ofNat_toNat]

/-- **Bytes of this form** are those of a character. -/
theorem exists_char_of_isChar {b : List UInt8} (h : IsChar b) : ∃ c, b = String.utf8EncodeChar c := by
  -- the number of the character is put together from the lower bits of the bytes
  have hchar : ∀ n, (n < 0xD800 ∨ 0xDFFF < n ∧ n < 0x110000) → (Char.ofNat n).val.toNat = n :=
    fun n hn => toNat_ofNat hn
  cases h with
  | @one a ha =>
    refine ⟨Char.ofNat a.toNat, ?_⟩
    rw [String.utf8EncodeChar, hchar _ (by omega)]
    rw [if_pos ha, byte_eq rfl]
  | @two a b ha hb =>
    obtain ⟨hb₁, hb₂⟩ := hb
    refine ⟨Char.ofNat ((a.toNat - 0xC0) * 64 + (b.toNat - 0x80)), ?_⟩
    rw [String.utf8EncodeChar, hchar _ (by omega)]
    rw [if_neg (by omega), if_pos (by omega), byte_eq (b := a) (by omega), byte_eq (b := b) (by omega)]
  | @three a b c ha hb hc hlong hsurr =>
    obtain ⟨hb₁, hb₂⟩ := hb
    obtain ⟨hc₁, hc₂⟩ := hc
    refine ⟨Char.ofNat ((a.toNat - 0xE0) * 4096 + (b.toNat - 0x80) * 64 + (c.toNat - 0x80)), ?_⟩
    rw [String.utf8EncodeChar, hchar _ (by omega)]
    rw [if_neg (by omega), if_neg (by omega), if_pos (by omega), byte_eq (b := a) (by omega),
      byte_eq (b := b) (by omega), byte_eq (b := c) (by omega)]
  | @four a b c d ha hb hc hd hlong hbeyond =>
    obtain ⟨hb₁, hb₂⟩ := hb
    obtain ⟨hc₁, hc₂⟩ := hc
    obtain ⟨hd₁, hd₂⟩ := hd
    refine ⟨Char.ofNat ((a.toNat - 0xF0) * 262144 + (b.toNat - 0x80) * 4096 + (c.toNat - 0x80) * 64 +
      (d.toNat - 0x80)), ?_⟩
    rw [String.utf8EncodeChar, hchar _ (by omega)]
    rw [if_neg (by omega), if_neg (by omega), if_neg (by omega), byte_eq (b := a) (by omega),
      byte_eq (b := b) (by omega), byte_eq (b := c) (by omega), byte_eq (b := d) (by omega)]

theorem isChar_iff {b : List UInt8} : IsChar b ↔ ∃ c, b = String.utf8EncodeChar c := by
  refine ⟨exists_char_of_isChar, ?_⟩
  rintro ⟨c, rfl⟩
  exact isChar_utf8EncodeChar c

/-! ### Texts -/

/-- The bytes of any number of characters, with nothing between them. -/
inductive WellFormed : List UInt8 → Prop
  | nil : WellFormed []
  | cons {c r : List UInt8} (hc : IsChar c) (hr : WellFormed r) : WellFormed (c ++ r)

/-- **The bytes of texts** are the well-formed ones. -/
theorem wellFormed_iff {b : List UInt8} : WellFormed b ↔ ∃ s, b = encode s := by
  constructor
  · intro h
    induction h with
    | nil => exact ⟨"", rfl⟩
    | cons hc _ ih =>
      obtain ⟨c, rfl⟩ := isChar_iff.1 hc
      obtain ⟨s, rfl⟩ := ih
      exact ⟨String.ofList (c :: s.toList), by rw [encode_cons, String.ofList_toList]⟩
  · rintro ⟨s, rfl⟩
    rw [← String.ofList_toList (s := s)]
    induction s.toList with
    | nil => exact .nil
    | cons c cs ih =>
      rw [encode_cons]
      exact .cons (isChar_utf8EncodeChar c) ih

end ArchivalBag.Encoding.Utf8

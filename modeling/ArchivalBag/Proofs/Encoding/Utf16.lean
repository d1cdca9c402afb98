import ArchivalBag.Proofs.Encoding.Utf8

/-!
# Texts stored in UTF-16

The bytes of a text stand for this text and for no other one, and they are exactly the bytes of whole
units in which each high surrogate is followed by a low one and no other surrogate occurs.

* `decode?_charBytes_append`: a text is read character by character.
* `decode?_eq_some_iff`: a text from its bytes, and from no others.
* `WellFormed`, `wellFormed_iff`: the bytes of texts.
-/

namespace ArchivalBag.Encoding.Utf16

variable {o : ByteOrder}

/-! ### Units -/

theorem isHigh_eq_true_iff {u : Nat} : isHigh u = true ↔ 0xD800 ≤ u ∧ u < 0xDC00 := by
  rw [isHigh, Bool.and_eq_true, decide_eq_true_eq, decide_eq_true_eq]

theorem isLow_eq_true_iff {u : Nat} : isLow u = true ↔ 0xDC00 ≤ u ∧ u < 0xE000 := by
  rw [isLow, Bool.and_eq_true, decide_eq_true_eq, decide_eq_true_eq]

theorem isHigh_eq_false_iff {u : Nat} : isHigh u = false ↔ u < 0xD800 ∨ 0xDC00 ≤ u := by
  rw [← Bool.not_eq_true, isHigh_eq_true_iff]
  omega

theorem isLow_eq_false_iff {u : Nat} : isLow u = false ↔ u < 0xDC00 ∨ 0xE000 ≤ u := by
  rw [← Bool.not_eq_true, isLow_eq_true_iff]
  omega

theorem unit_lt (o : ByteOrder) (a b : UInt8) : unit o a b < 0x10000 := by
  have ha := a.toNat_lt
  have hb := b.toNat_lt
  cases o <;> simp only [unit] <;> omega

/-- The bytes of a unit are the two that make it. -/
theorem unitBytes_unit (o : ByteOrder) (a b : UInt8) : unitBytes o (unit o a b) = [a, b] := by
  have ha := a.toNat_lt
  have hb := b.toNat_lt
  have hbyte : ∀ {n : Nat} {x : UInt8}, n = x.toNat → UInt8.ofNat n = x := by
    rintro n x rfl
    exact UInt8.ofNat_toNat
  cases o <;> simp only [unit, unitBytes, List.cons.injEq, and_true]
  · exact ⟨hbyte (by omega), hbyte (by omega)⟩
  · exact ⟨hbyte (by omega), hbyte (by omega)⟩

theorem exists_unitBytes_eq (o : ByteOrder) {u : Nat} (h : u < 0x10000) :
    ∃ a b, unitBytes o u = [a, b] ∧ unit o a b = u := by
  have hlow : (UInt8.ofNat (u % 256)).toNat = u % 256 :=
    UInt8.toNat_ofNat_of_lt' (show u % 256 < 256 by omega)
  have hhigh : (UInt8.ofNat (u / 256)).toNat = u / 256 :=
    UInt8.toNat_ofNat_of_lt' (show u / 256 < 256 by omega)
  cases o
  · exact ⟨_, _, rfl, by rw [unit, hlow, hhigh]; omega⟩
  · exact ⟨_, _, rfl, by rw [unit, hlow, hhigh]; omega⟩

/-- A unit is read back from its bytes. -/
theorem units?_unitBytes_append {u : Nat} (h : u < 0x10000) (b : List UInt8) :
    units? o (unitBytes o u ++ b) = (units? o b).map (u :: ·) := by
  obtain ⟨x, y, hbytes, hu⟩ := exists_unitBytes_eq o h
  rw [hbytes, List.cons_append, List.singleton_append, units?, hu]

/-- The units of some bytes. -/
theorem eq_of_units? {b : List UInt8} {us : List Nat} (h : units? o b = some us) :
    b = us.flatMap (unitBytes o) ∧ ∀ u ∈ us, u < 0x10000 := by
  fun_induction units? o b generalizing us with
  | case1 =>
    obtain rfl := Option.some.inj h
    exact ⟨rfl, fun u hu => nomatch hu⟩
  | case2 => cases h
  | case3 a b r ih =>
    obtain ⟨us', hus', rfl⟩ := Option.map_eq_some_iff.1 h
    obtain ⟨hr, hlt⟩ := ih hus'
    refine ⟨?_, fun u hu => ?_⟩
    · rw [List.flatMap_cons, unitBytes_unit, ← hr]
      rfl
    · rcases List.mem_cons.1 hu with rfl | hu
      · exact unit_lt o a b
      · exact hlt u hu

/-! ### Characters -/

theorem charUnits_ofNat {u : Nat} (h : u < 0x10000) (hh : isHigh u = false) (hl : isLow u = false) :
    charUnits (Char.ofNat u) = [u] := by
  rw [isHigh_eq_false_iff] at hh
  rw [isLow_eq_false_iff] at hl
  rw [charUnits, toNat_ofNat (by omega), if_pos h]

theorem charUnits_joinSurrogates {h l : Nat} (hh : isHigh h = true) (hl : isLow l = true) :
    charUnits (joinSurrogates h l) = [h, l] := by
  rw [isHigh_eq_true_iff] at hh
  rw [isLow_eq_true_iff] at hl
  rw [charUnits, joinSurrogates, toNat_ofNat (by omega), if_neg (by omega)]
  simp only [List.cons.injEq, and_true]
  omega

/-- A character is one unit that is no surrogate or a pair of surrogates. -/
theorem charUnits_cases (c : Char) :
    (∃ u, charUnits c = [u] ∧ u < 0x10000 ∧ isHigh u = false ∧ isLow u = false) ∨
      ∃ h l, charUnits c = [h, l] ∧ isHigh h = true ∧ isLow l = true := by
  have hc := toNat_cases c
  rw [charUnits]
  by_cases h : c.toNat < 0x10000
  · rw [if_pos h]
    exact .inl ⟨_, rfl, h, isHigh_eq_false_iff.2 (by omega), isLow_eq_false_iff.2 (by omega)⟩
  · rw [if_neg h]
    exact .inr ⟨_, _, rfl, isHigh_eq_true_iff.2 (by omega), isLow_eq_true_iff.2 (by omega)⟩

/-- Different characters have different units. -/
theorem charUnits_injective {c d : Char} (h : charUnits c = charUnits d) : c = d := by
  have hc := toNat_cases c
  have hd := toNat_cases d
  refine Char.toNat_inj.1 ?_
  by_cases hc' : c.toNat < 0x10000 <;> by_cases hd' : d.toNat < 0x10000 <;>
    simp only [charUnits, hc', hd', if_true, if_false, List.cons.injEq, and_true, reduceCtorEq,
      and_false] at h
  · exact h
  · omega

/-- The units of a character are read back. -/
theorem chars?_charUnits_append (c : Char) (us : List Nat) :
    chars? (charUnits c ++ us) = (chars? us).map (c :: ·) := by
  rcases charUnits_cases c with ⟨u, hu, hlt, hh, hl⟩ | ⟨h, l, hu, hh, hl⟩
  · have hchar : charUnits (Char.ofNat u) = charUnits c := (charUnits_ofNat hlt hh hl).trans hu.symm
    rw [hu, List.singleton_append, chars?.eq_def]
    simp only [hh, hl, Bool.false_eq_true, if_false, charUnits_injective hchar]
  · have hchar : charUnits (joinSurrogates h l) = charUnits c :=
      (charUnits_joinSurrogates hh hl).trans hu.symm
    rw [hu, List.cons_append, List.singleton_append, chars?.eq_def]
    simp only [hh, hl, if_true, charUnits_injective hchar]

/-- The characters of some units. -/
theorem eq_of_chars? {us : List Nat} {cs : List Char} (h : chars? us = some cs)
    (hlt : ∀ u ∈ us, u < 0x10000) : us = cs.flatMap charUnits := by
  fun_induction chars? us generalizing cs with
  | case1 =>
    obtain rfl := Option.some.inj h
    rfl
  | case2 u hh l r hl ih =>
    obtain ⟨cs', hcs', rfl⟩ := Option.map_eq_some_iff.1 h
    have hr := ih hcs' fun x hx => hlt x (List.mem_cons_of_mem _ (List.mem_cons_of_mem _ hx))
    rw [List.flatMap_cons, charUnits_joinSurrogates hh hl, ← hr]
    rfl
  | case3 => cases h
  | case4 => cases h
  | case5 => cases h
  | case6 u r hh hl ih =>
    obtain ⟨cs', hcs', rfl⟩ := Option.map_eq_some_iff.1 h
    have hr := ih hcs' fun x hx => hlt x (List.mem_cons_of_mem _ hx)
    rw [List.flatMap_cons, charUnits_ofNat (hlt u List.mem_cons_self) (by simpa using hh) (by simpa using hl),
      ← hr]
    rfl

/-! ### Texts -/

theorem encode_cons (c : Char) (cs : List Char) :
    encode o (c :: cs) = (charUnits c).flatMap (unitBytes o) ++ encode o cs := by
  rw [encode, encode, List.flatMap_cons, List.flatMap_append]

theorem charUnits_lt {c : Char} : ∀ u ∈ charUnits c, u < 0x10000 := by
  intro u hu
  rcases charUnits_cases c with ⟨v, hv, hlt, -⟩ | ⟨h, l, hv, hh, hl⟩
  · rw [hv, List.mem_singleton] at hu
    rw [hu]; exact hlt
  · rw [isHigh_eq_true_iff] at hh
    rw [isLow_eq_true_iff] at hl
    rw [hv] at hu
    simp only [List.mem_cons, List.not_mem_nil, or_false] at hu
    omega

theorem units?_flatMap_append {us : List Nat} (h : ∀ u ∈ us, u < 0x10000) (b : List UInt8) :
    units? o (us.flatMap (unitBytes o) ++ b) = (units? o b).map (us ++ ·) := by
  induction us with
  | nil => exact (Option.map_id_apply (x := units? o b)).symm
  | cons u us ih =>
    rw [List.flatMap_cons, List.append_assoc, units?_unitBytes_append (h u List.mem_cons_self),
      ih fun x hx => h x (List.mem_cons_of_mem u hx), Option.map_map]
    rfl

/-- **A text is read character by character.** -/
theorem decode?_charBytes_append (c : Char) (b : List UInt8) :
    decode? o ((charUnits c).flatMap (unitBytes o) ++ b) = (decode? o b).map (c :: ·) := by
  rw [decode?, decode?, units?_flatMap_append charUnits_lt]
  cases units? o b with
  | none => rfl
  | some us => exact chars?_charUnits_append c us

theorem decode?_encode (cs : List Char) : decode? o (encode o cs) = some cs := by
  induction cs with
  | nil => rfl
  | cons c cs ih => rw [encode_cons, decode?_charBytes_append, ih]; rfl

/-- **A text from its bytes**, and from no others. -/
theorem decode?_eq_some_iff {b : List UInt8} {cs : List Char} :
    decode? o b = some cs ↔ b = encode o cs := by
  constructor
  · intro h
    obtain ⟨us, hus, hcs⟩ := Option.bind_eq_some_iff.1 h
    obtain ⟨rfl, hlt⟩ := eq_of_units? hus
    rw [eq_of_chars? hcs hlt, encode]
  · rintro rfl
    exact decode?_encode cs

/-! ### Well-formed bytes -/

/-- Bytes of whole units in which a high surrogate is followed by a low one, and no other surrogate
occurs. -/
inductive WellFormed (o : ByteOrder) : List UInt8 → Prop
  | nil : WellFormed o []
  | single {a b : UInt8} {r : List UInt8} (notHigh : isHigh (unit o a b) = false)
      (notLow : isLow (unit o a b) = false) (hr : WellFormed o r) : WellFormed o (a :: b :: r)
  | pair {a b c d : UInt8} {r : List UInt8} (high : isHigh (unit o a b) = true)
      (low : isLow (unit o c d) = true) (hr : WellFormed o r) : WellFormed o (a :: b :: c :: d :: r)

theorem exists_encode_of_wellFormed {b : List UInt8} (h : WellFormed o b) : ∃ cs, b = encode o cs := by
  induction h with
  | nil => exact ⟨[], rfl⟩
  | @single a b r hh hl _ ih =>
    obtain ⟨cs, rfl⟩ := ih
    refine ⟨Char.ofNat (unit o a b) :: cs, ?_⟩
    rw [encode_cons, charUnits_ofNat (unit_lt o a b) hh hl, List.flatMap_singleton, unitBytes_unit]
    rfl
  | @pair a b c d r hh hl _ ih =>
    obtain ⟨cs, rfl⟩ := ih
    refine ⟨joinSurrogates (unit o a b) (unit o c d) :: cs, ?_⟩
    rw [encode_cons, charUnits_joinSurrogates hh hl, List.flatMap_cons, List.flatMap_singleton,
      unitBytes_unit, unitBytes_unit]
    rfl

theorem wellFormed_charBytes_append (c : Char) {r : List UInt8} (hr : WellFormed o r) :
    WellFormed o ((charUnits c).flatMap (unitBytes o) ++ r) := by
  rcases charUnits_cases c with ⟨u, hu, hlt, hh, hl⟩ | ⟨h, l, hu, hh, hl⟩
  · obtain ⟨a, b, hbytes, hunit⟩ := exists_unitBytes_eq o hlt
    rw [hu, List.flatMap_singleton, hbytes]
    exact .single (by rw [hunit]; exact hh) (by rw [hunit]; exact hl) hr
  · have hhlt := (isHigh_eq_true_iff.1 hh).2
    have hllt := (isLow_eq_true_iff.1 hl).2
    obtain ⟨a, b, hbytes, hunit⟩ := exists_unitBytes_eq o (u := h) (by omega)
    obtain ⟨a', b', hbytes', hunit'⟩ := exists_unitBytes_eq o (u := l) (by omega)
    rw [hu, List.flatMap_cons, List.flatMap_singleton, hbytes, hbytes']
    exact .pair (by rw [hunit]; exact hh) (by rw [hunit']; exact hl) hr

/-- **The bytes of texts** are the well-formed ones. -/
theorem wellFormed_iff {b : List UInt8} : WellFormed o b ↔ ∃ cs, b = encode o cs := by
  refine ⟨exists_encode_of_wellFormed, ?_⟩
  rintro ⟨cs, rfl⟩
  induction cs with
  | nil => exact .nil
  | cons c cs ih =>
    rw [encode_cons]
    exact wellFormed_charBytes_append c ih

end ArchivalBag.Encoding.Utf16

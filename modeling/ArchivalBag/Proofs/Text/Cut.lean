import ArchivalBag.Proofs.Text.Trim
import ArchivalBag.Text.Split

/-!
# Cuts of a text

The functions that cut a text in two find exactly one cut each, and here the cut is described by the
two parts and not by the search: the first character of a kind, the first occurrence of a separator, a
field and the blanks behind it.

* `splitAt?_eq_some_iff`: the cut at the first character with a property.
* `splitOnce?_eq_some_iff`, `splitOnce?_eq_none_iff`: the cut at the first occurrence of a text.
* `nextField?_eq_some_iff`: a field, blanks, and what follows them.
-/

namespace ArchivalBag.Text

/-! ### Fields and gaps -/

/-- A field: some characters and no blank among them. -/
def IsField (cs : List Char) : Prop :=
  cs ≠ [] ∧ ∀ c ∈ cs, isBlank c = false

/-- A gap between fields: some blanks. -/
def IsGap (cs : List Char) : Prop :=
  cs ≠ [] ∧ ∀ c ∈ cs, isBlank c = true

/-- What may follow a gap: some text that does not start with a blank. -/
def IsRest (cs : List Char) : Prop :=
  cs ≠ [] ∧ StartsVisible cs

instance (cs : List Char) : Decidable (IsField cs) :=
  decidable_of_iff (cs ≠ [] ∧ (cs.all fun c => !isBlank c) = true) (by simp [IsField])

instance (cs : List Char) : Decidable (IsGap cs) :=
  decidable_of_iff (cs ≠ [] ∧ cs.all isBlank = true) (by simp [IsGap])

instance : (cs : List Char) → Decidable (StartsVisible cs)
  | [] => .isTrue trivial
  | c :: _ => inferInstanceAs (Decidable (isBlank c = false))

instance (cs : List Char) : Decidable (IsRest cs) :=
  inferInstanceAs (Decidable (_ ∧ _))

/-! ### The first character with a property -/

theorem splitAt?_eq_some_iff {p : Char → Bool} {cs a r : List Char} :
    splitAt? p cs = some (a, r) ↔
      ∃ c, p c = true ∧ (∀ d ∈ a, p d = false) ∧ cs = a ++ c :: r := by
  constructor
  · intro h
    induction cs generalizing a with
    | nil => simp [splitAt?] at h
    | cons c cs ih =>
      rw [splitAt?] at h
      split at h
      · rename_i hc
        obtain ⟨rfl, rfl⟩ := Prod.mk.inj (Option.some.inj h)
        exact ⟨c, hc, by simp, rfl⟩
      · rename_i hc
        obtain ⟨⟨a', r'⟩, hs, he⟩ := Option.map_eq_some_iff.1 h
        obtain ⟨rfl, rfl⟩ := Prod.mk.inj he
        obtain ⟨d, hd, ha, rfl⟩ := ih hs
        refine ⟨d, hd, fun x hx => ?_, rfl⟩
        rcases List.mem_cons.1 hx with rfl | hx
        · simpa using hc
        · exact ha x hx
  · rintro ⟨c, hc, ha, rfl⟩
    exact splitAt?_append ha hc r

/-! ### The first occurrence of a text -/

theorem dropFront?_eq_some_iff {f cs r : List Char} : dropFront? f cs = some r ↔ cs = f ++ r := by
  induction f generalizing cs with
  | nil => simp [dropFront?]
  | cons x f ih =>
    cases cs with
    | nil => simp [dropFront?]
    | cons c cs =>
      rw [dropFront?]
      split
      · rename_i hx
        rw [ih, hx]; simp
      · rename_i hx
        simp only [reduceCtorEq, List.cons_append, List.cons.injEq, false_iff, not_and]
        intro hc; exact absurd hc.symm hx

theorem dropFront?_eq_none_iff {f cs : List Char} : dropFront? f cs = none ↔ ¬ f <+: cs := by
  constructor
  · rintro h ⟨r, rfl⟩
    rw [dropFront?_eq_some_iff.2 rfl] at h
    cases h
  · intro h
    cases hd : dropFront? f cs with
    | none => rfl
    | some r => exact absurd ⟨r, (dropFront?_eq_some_iff.1 hd).symm⟩ h

/-- The cut `a`, `b` of a text at the first occurrence of `sep`: no other occurrence has less in
front of it. -/
def IsFirstCut (sep cs a b : List Char) : Prop :=
  cs = a ++ sep ++ b ∧ ∀ a' b', cs = a' ++ sep ++ b' → a.length ≤ a'.length

/-- There is only one first occurrence. -/
theorem IsFirstCut.unique {sep cs a b a' b' : List Char} (h : IsFirstCut sep cs a b)
    (h' : IsFirstCut sep cs a' b') : a = a' ∧ b = b' := by
  have hl : a.length = a'.length := Nat.le_antisymm (h.2 _ _ h'.1) (h'.2 _ _ h.1)
  have he : a ++ (sep ++ b) = a' ++ (sep ++ b') := by
    rw [← List.append_assoc, ← List.append_assoc, ← h.1, ← h'.1]
  obtain ⟨rfl, he⟩ := List.append_inj he hl
  exact ⟨rfl, List.append_cancel_left (List.append_cancel_left he)⟩

/-- What is in front of the first occurrence of a character does not hold it. -/
theorem isFirstCut_singleton_iff {c : Char} {cs a b : List Char} :
    IsFirstCut [c] cs a b ↔ cs = a ++ [c] ++ b ∧ c ∉ a := by
  constructor
  · rintro ⟨hcs, hmin⟩
    refine ⟨hcs, fun hc => ?_⟩
    obtain ⟨x, y, rfl⟩ := List.append_of_mem hc
    have hlen := hmin x (y ++ [c] ++ b) (by rw [hcs]; simp)
    rw [List.length_append, List.length_cons] at hlen
    omega
  · rintro ⟨rfl, hc⟩
    refine ⟨rfl, fun a' b' he => ?_⟩
    by_contra hlt
    rw [List.append_assoc, List.append_assoc, List.append_eq_append_iff] at he
    rcases he with ⟨x, hx, -⟩ | ⟨x, hx, hb⟩
    · have hlen := congrArg List.length hx
      rw [List.length_append] at hlen
      omega
    · cases x with
      | nil =>
        have hlen := congrArg List.length hx
        rw [List.append_nil] at hlen
        omega
      | cons d x =>
        obtain ⟨rfl, -⟩ := List.cons.inj hb
        exact hc (by rw [hx]; simp)

theorem splitOnce?_cons {sep cs : List Char} {c : Char} :
    splitOnce? sep (c :: cs) =
      match dropFront? sep (c :: cs) with
      | some r => some ([], r)
      | none => (splitOnce? sep cs).map fun (a, b) => (c :: a, b) := rfl

/-- **What is found is the first occurrence.** -/
theorem isFirstCut_of_splitOnce? {sep cs a b : List Char} (h : splitOnce? sep cs = some (a, b)) :
    IsFirstCut sep cs a b := by
  induction cs generalizing a with
  | nil =>
    obtain ⟨r, hr, he⟩ := Option.map_eq_some_iff.1 h
    obtain ⟨rfl, rfl⟩ := Prod.mk.inj he
    exact ⟨by simpa using dropFront?_eq_some_iff.1 hr, fun a' b' _ => Nat.zero_le _⟩
  | cons c cs ih =>
    rw [splitOnce?_cons] at h
    cases hd : dropFront? sep (c :: cs) with
    | some r =>
      rw [hd] at h
      obtain ⟨rfl, rfl⟩ := Prod.mk.inj (Option.some.inj h)
      exact ⟨by simpa using dropFront?_eq_some_iff.1 hd, fun a' b' _ => Nat.zero_le _⟩
    | none =>
      rw [hd] at h
      obtain ⟨⟨a₀, b₀⟩, hs, he⟩ := Option.map_eq_some_iff.1 h
      obtain ⟨rfl, rfl⟩ := Prod.mk.inj he
      obtain ⟨hcs, hmin⟩ := ih hs
      refine ⟨by rw [hcs]; rfl, fun a' b' ha' => ?_⟩
      -- no occurrence starts at `c`, so `a'` starts with it too
      cases a' with
      | nil => exact absurd ⟨b', ha'.symm⟩ (dropFront?_eq_none_iff.1 hd)
      | cons c' a' =>
        have := hmin a' b' (by simpa using (List.cons.inj ha').2)
        simpa using this

theorem splitOnce?_eq_none_iff {sep cs : List Char} : splitOnce? sep cs = none ↔ ¬ sep <:+: cs := by
  constructor
  · rintro h ⟨a, b, rfl⟩
    induction a with
    | nil =>
      cases hsb : sep ++ b with
      | nil =>
        obtain ⟨rfl, rfl⟩ := List.append_eq_nil_iff.1 hsb
        simp [splitOnce?, dropFront?] at h
      | cons c cs =>
        have hd : dropFront? sep (c :: cs) = some b := dropFront?_eq_some_iff.2 hsb.symm
        rw [List.nil_append, hsb, splitOnce?_cons, hd] at h
        cases h
    | cons c a ih =>
      rw [List.cons_append, List.cons_append, splitOnce?_cons] at h
      cases hd : dropFront? sep (c :: (a ++ sep ++ b)) with
      | some r => rw [hd] at h; cases h
      | none =>
        rw [hd] at h
        exact ih (Option.map_eq_none_iff.1 h)
  · intro h
    cases hs : splitOnce? sep cs with
    | none => rfl
    | some ab =>
      obtain ⟨hcs, -⟩ := isFirstCut_of_splitOnce? (a := ab.1) (b := ab.2) hs
      exact absurd ⟨ab.1, ab.2, hcs.symm⟩ h

/-- **A text is cut at the first occurrence.** -/
theorem splitOnce?_eq_some_iff {sep cs a b : List Char} :
    splitOnce? sep cs = some (a, b) ↔ IsFirstCut sep cs a b := by
  refine ⟨isFirstCut_of_splitOnce?, fun h => ?_⟩
  cases hs : splitOnce? sep cs with
  | none => exact absurd ⟨a, b, h.1.symm⟩ (splitOnce?_eq_none_iff.1 hs)
  | some ab =>
    obtain ⟨h₁, h₂⟩ := (isFirstCut_of_splitOnce? (a := ab.1) (b := ab.2) hs).unique h
    rw [← h₁, ← h₂]

/-- Nothing is in front of the first occurrence exactly if the text starts with it. -/
theorem IsFirstCut.eq_nil_iff {sep cs a b : List Char} (h : IsFirstCut sep cs a b) :
    a = [] ↔ sep <+: cs := by
  constructor
  · rintro rfl
    exact ⟨b, by rw [h.1]; rfl⟩
  · rintro ⟨r, hr⟩
    exact List.eq_nil_of_length_eq_zero (Nat.le_zero.1 (h.2 [] r hr.symm))

/-! ### The next field -/

/-- **The next field**, the gap behind it, and what follows. -/
theorem nextField?_eq_some_iff {cs f r : List Char} :
    nextField? cs = some (f, r) ↔
      IsField f ∧ StartsVisible r ∧ ∃ w, IsGap w ∧ cs = f ++ w ++ r := by
  constructor
  · intro h
    rw [nextField?] at h
    split at h
    · cases h
    · cases h
    · rename_i field rest hne hs
      obtain ⟨rfl, rfl⟩ := Prod.mk.inj (Option.some.inj h)
      obtain ⟨c, hc, hf, rfl⟩ := splitAt?_eq_some_iff.1 hs
      obtain ⟨ws, hws, hrest⟩ := exists_trimStart rest
      refine ⟨⟨hne, hf⟩, startsVisible_trimStart _, c :: ws, ⟨by simp, ?_⟩, ?_⟩
      · intro x hx
        rcases List.mem_cons.1 hx with rfl | hx
        · exact hc
        · exact hws x hx
      · rw [List.append_assoc, List.cons_append, ← hrest]
  · rintro ⟨hf, hr, w, ⟨hw, hb⟩, rfl⟩
    obtain ⟨c, ws, rfl⟩ := List.exists_cons_of_ne_nil hw
    obtain ⟨x, xs, rfl⟩ := List.exists_cons_of_ne_nil hf.1
    have hs : splitAt? isBlank (x :: xs ++ (c :: ws) ++ r) = some (x :: xs, ws ++ r) := by
      rw [List.append_assoc]
      exact splitAt?_append hf.2 (hb c List.mem_cons_self) (ws ++ r)
    have ht : trimStart (ws ++ r) = r := by
      rw [trimStart_blanks fun d hd => hb d (List.mem_cons_of_mem _ hd), trimStart_eq_self hr]
    rw [nextField?, hs]
    simp only [ht]

end ArchivalBag.Text

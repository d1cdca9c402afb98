import ArchivalBag.Proofs.Text.Cut
import ArchivalBag.Proofs.Text.Decimal
import ArchivalBag.Reading.FetchLines
import ArchivalBag.Reading.Fields
import ArchivalBag.Reading.ManifestLines

/-!
# The grammars of lines

What a line of each kind of tag file looks like, and that the reader of such lines accepts exactly
these.

* `keyLine?_eq_some_iff`: a key line is a key, the first occurrence of the delimiter, and a value.
* `manifestLine?_eq_some_iff`: a manifest line is a checksum, a gap, and a path.
* `FetchItem.parse_eq_ok_iff`: a fetch line is a URL, a gap, a length, a gap, and a path.
-/

namespace ArchivalBag

open Text

/-! ### Key lines and folds -/

theorem isFold_eq_false_iff {t : List Char} : isFold t = false ↔ StartsVisible t := by
  cases t with
  | nil => simp [isFold, StartsVisible]
  | cons c t => rfl

/-- A line that names a key: the key in front of the first delimiter and the value behind it, both
without the blanks around them. The line may not start with the delimiter. -/
def IsKeyLine (delimiter t : List Char) (k v : String) : Prop :=
  ∃ a b, IsFirstCut delimiter t a b ∧ a ≠ [] ∧ k = String.ofList (trim a) ∧
    v = String.ofList (trim b)

/-- The line is no key line: it has no delimiter or starts with it. -/
def LacksKey (delimiter t : List Char) : Prop :=
  ¬ delimiter <:+: t ∨ delimiter <+: t

/-- **The key and the value of a line** that does not start with a blank. -/
theorem keyLine?_eq_some_iff {d t : List Char} (ht : isFold t = false) {k v : String} :
    keyLine? d t = some (k, v) ↔ IsKeyLine d t k v := by
  constructor
  · intro h
    rw [keyLine?] at h
    split at h
    · cases h
    · rename_i a b hs
      split at h
      · cases h
      · rename_i ha
        obtain ⟨rfl, rfl⟩ := Prod.mk.inj (Option.some.inj h)
        refine ⟨a, b, splitOnce?_eq_some_iff.1 hs, ?_, rfl, rfl⟩
        rintro rfl
        exact ha rfl
  · rintro ⟨a, b, hc, hne, rfl, rfl⟩
    have hv : StartsVisible a := by
      have := isFold_eq_false_iff.1 ht
      rw [hc.1, List.append_assoc] at this
      exact this.of_append
    rw [keyLine?, splitOnce?_eq_some_iff.2 hc]
    simp [trim_ne_nil hne hv]

/-- **A line that is rejected**: it has no delimiter or starts with it. -/
theorem keyLine?_eq_none_iff {d t : List Char} (ht : isFold t = false) :
    keyLine? d t = none ↔ LacksKey d t := by
  constructor
  · intro h
    by_contra hn
    obtain ⟨hi, hp⟩ := not_or.1 hn
    obtain ⟨⟨a, b⟩, hs⟩ := Option.ne_none_iff_exists'.1 (mt splitOnce?_eq_none_iff.1 hi)
    have hc := splitOnce?_eq_some_iff.1 hs
    have hk := (keyLine?_eq_some_iff ht).2 ⟨a, b, hc, mt hc.eq_nil_iff.1 hp, rfl, rfl⟩
    rw [h] at hk
    cases hk
  · intro h
    by_contra hn
    obtain ⟨⟨k, v⟩, hk⟩ := Option.ne_none_iff_exists'.1 hn
    obtain ⟨a, b, hc, hne, -⟩ := (keyLine?_eq_some_iff ht).1 hk
    rcases h with h | h
    · exact h ⟨a, b, hc.1.symm⟩
    · exact hne (hc.eq_nil_iff.2 h)

theorem exists_isKeyLine_iff {d t : List Char} (ht : isFold t = false) :
    (∃ k v, IsKeyLine d t k v) ↔ d <:+: t ∧ ¬ d <+: t := by
  have h := not_congr (keyLine?_eq_none_iff (d := d) ht)
  rw [LacksKey, not_or, not_not] at h
  rw [← h]
  constructor
  · rintro ⟨k, v, hk⟩
    rw [(keyLine?_eq_some_iff ht).2 hk]; simp
  · intro hn
    obtain ⟨⟨k, v⟩, hk⟩ := Option.ne_none_iff_exists'.1 hn
    exact ⟨k, v, (keyLine?_eq_some_iff ht).1 hk⟩

/-! ### Lines of a manifest -/

/-- A line of a manifest: a checksum without blanks, some blanks, and a path that does not start with
a blank. Blanks inside the path and at its end belong to it. -/
def IsManifestLine (t checksum path : List Char) : Prop :=
  ∃ gap, IsField checksum ∧ IsGap gap ∧ IsRest path ∧ t = checksum ++ gap ++ path

/-- **The checksum and the path of a line.** -/
theorem manifestLine?_eq_some_iff {t c p : List Char} :
    manifestLine? t = some (c, p) ↔ IsManifestLine t c p := by
  constructor
  · intro h
    rw [manifestLine?] at h
    split at h
    · rename_i c' p' hn
      split at h
      · cases h
      · rename_i hp
        obtain ⟨rfl, rfl⟩ := Prod.mk.inj (Option.some.inj h)
        obtain ⟨hc, hv, w, hw, ht⟩ := nextField?_eq_some_iff.1 hn
        exact ⟨w, hc, hw, ⟨by simpa using hp, hv⟩, ht⟩
    · cases h
  · rintro ⟨w, hc, hw, hp, ht⟩
    rw [manifestLine?, nextField?_eq_some_iff.2 ⟨hc, hp.2, w, hw, ht⟩]
    simp [hp.1]

theorem manifestLine?_eq_none_iff {t : List Char} :
    manifestLine? t = none ↔ ¬ ∃ c p, IsManifestLine t c p := by
  rw [Option.eq_none_iff_forall_not_mem]
  simp only [Option.mem_def, Prod.forall, manifestLine?_eq_some_iff, not_exists]

/-! ### Lines of a fetch list -/

/-- The token of a length: a hyphen, or digits whose value fits into 64 bits. -/
def IsLength (token : List Char) : FetchLength → Prop
  | .unknown => token = ['-']
  | .known n => token ≠ [] ∧ (∀ c ∈ token, c.isDigit = true) ∧ digitsValue token = n.toNat

/-- A line of a fetch list: a URL, some blanks, a length, some blanks, and a path that does not start
with a blank. -/
def IsFetchLine (t : List Char) (item : FetchItem) : Prop :=
  ∃ url gap length gap', IsField url ∧ IsGap gap ∧ IsField length ∧ IsGap gap' ∧
    IsRest item.path.toList ∧ t = url ++ gap ++ length ++ gap' ++ item.path.toList ∧
    Url.parse (String.ofList url) = .ok item.url ∧ IsLength length item.length

theorem FetchLength.parse_eq_ok_iff {token : List Char} {l : FetchLength} :
    FetchLength.parse token = .ok l ↔ IsLength token l := by
  rw [FetchLength.parse]
  split
  · rename_i ht
    subst ht
    cases l with
    | unknown => simp [IsLength]
    | known n =>
      simp only [Except.ok.injEq, reduceCtorEq, IsLength, List.mem_singleton, forall_eq, false_iff]
      rintro ⟨-, hd, -⟩
      exact absurd hd (by decide)
  · rename_i ht
    cases l with
    | unknown =>
      rw [IsLength]
      simp only [ht, iff_false]
      split <;> simp
    | known n =>
      have hn : IsLength token (.known n) ↔ readWord token = .ok n := readWord_eq_ok_iff.symm
      rw [hn]
      split <;> simp_all

/-- **The item of a line.** -/
theorem FetchItem.parse_eq_ok_iff {t : List Char} {item : FetchItem} :
    FetchItem.parse t = .ok item ↔ IsFetchLine t item := by
  constructor
  · intro h
    rw [FetchItem.parse] at h
    split at h
    · cases h
    rename_i url rest hn
    split at h
    · cases h
    rename_i length path hn'
    split at h
    · cases h
    rename_i hp
    split at h
    · cases h
    rename_i u hu
    split at h
    · cases h
    rename_i l hl
    obtain rfl := Except.ok.inj h
    obtain ⟨hurl, -, w, hw, rfl⟩ := nextField?_eq_some_iff.1 hn
    obtain ⟨hlen, hpv, w', hw', rfl⟩ := nextField?_eq_some_iff.1 hn'
    refine ⟨url, w, length, w', hurl, hw, hlen, hw', ⟨?_, ?_⟩, ?_, hu,
      FetchLength.parse_eq_ok_iff.1 hl⟩
    · simpa using hp
    · simpa using hpv
    · simp
  · rintro ⟨url, w, length, w', hurl, hw, hlen, hw', hp, ht, hu, hl⟩
    have hv : StartsVisible (length ++ w' ++ item.path.toList) := by
      obtain ⟨c, r, rfl⟩ := List.exists_cons_of_ne_nil hlen.1
      exact hlen.2 c List.mem_cons_self
    have hn : nextField? t = some (url, length ++ w' ++ item.path.toList) :=
      nextField?_eq_some_iff.2 ⟨hurl, hv, w, hw, by rw [ht]; simp⟩
    have hn' : nextField? (length ++ w' ++ item.path.toList) = some (length, item.path.toList) :=
      nextField?_eq_some_iff.2 ⟨hlen, hp.2, w', hw', rfl⟩
    simp only [FetchItem.parse, hn, hn', hu, FetchLength.parse_eq_ok_iff.2 hl]
    simp [hp.1]

theorem FetchItem.exists_parse_eq_error_iff {t : List Char} :
    (∃ f, FetchItem.parse t = .error f) ↔ ¬ ∃ item, IsFetchLine t item := by
  simp only [← FetchItem.parse_eq_ok_iff]
  cases FetchItem.parse t <;> simp

end ArchivalBag

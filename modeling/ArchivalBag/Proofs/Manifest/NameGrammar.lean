import ArchivalBag.Proofs.Text.Cut
import ArchivalBag.Reading.ManifestLines
import Mathlib.Data.List.Basic
import Mathlib.Data.List.TakeWhile

/-!
# The grammar of names of manifests

A name that tells an algorithm is the front of a kind, `manifest-`, the algorithm, a dot, and an
extension. Since the algorithm holds no dot and the extension none either, the dot between them is the
only one, and there is one way only to read a name.

* `afterFront?_eq_some_iff`, `algorithmOf?_eq_some_iff`, `endsListed_iff`: the parts of a name.
* `ReadsAs`: a reading of a name; `ReadsAs.unique`: there is one at most.
* `algorithm?_eq_some_iff`, `manifestAlgorithm_eq_error_iff`: the names that tell an algorithm.
-/

namespace ArchivalBag.Manifest

open Text

/-- What the names of the manifests of one kind start with. -/
def Kind.front : Kind → String
  | .payload => ""
  | .tag => "tag"

/-! ### The parts of a name -/

theorem dropFront?_tag_nameFront (r : List Char) : dropFront? tagFront (nameFront ++ r) = none := by
  rw [dropFront?_eq_none_iff]
  rintro ⟨s, hs⟩
  exact absurd (List.cons.inj hs).1 (by decide)

theorem dropFront?_append (f r : List Char) : dropFront? f (f ++ r) = some r :=
  dropFront?_eq_some_iff.2 rfl

section Front
variable {n : String} {k : Kind} {rest : List Char}

/-- What is behind `tag`, if a name starts with it. -/
theorem dropFront?_tag_of_front (h : n.toList = k.front.toList ++ (nameFront ++ rest)) :
    dropFront? tagFront n.toList = if k = .tag then some (nameFront ++ rest) else none := by
  rw [h]
  cases k with
  | payload => exact dropFront?_tag_nameFront rest
  | tag => exact dropFront?_append tagFront (nameFront ++ rest)

/-- The kind that the front of a name tells. -/
theorem ofName_of_front (h : n.toList = k.front.toList ++ (nameFront ++ rest)) : Kind.ofName n = k := by
  unfold Kind.ofName
  rw [dropFront?_tag_of_front h]
  cases k <;> rfl

theorem afterFront?_of_front (h : n.toList = k.front.toList ++ (nameFront ++ rest)) :
    afterFront? n.toList = some rest := by
  unfold afterFront?
  have hname : (dropFront? tagFront n.toList).getD n.toList = nameFront ++ rest := by
    rw [dropFront?_tag_of_front h]
    cases k with
    | payload => exact h
    | tag => rfl
  rw [hname, dropFront?_append]

theorem toList_of_afterFront? (h : afterFront? n.toList = some rest) :
    n.toList = (Kind.ofName n).front.toList ++ (nameFront ++ rest) := by
  unfold afterFront? at h
  cases ht : dropFront? tagFront n.toList with
  | none =>
    have hk : Kind.ofName n = .payload := by rw [Kind.ofName, ht]; rfl
    rw [ht, Option.getD_none] at h
    rw [hk, dropFront?_eq_some_iff.1 h]
    rfl
  | some r =>
    have hk : Kind.ofName n = .tag := by rw [Kind.ofName, ht]; rfl
    rw [ht, Option.getD_some] at h
    rw [hk, dropFront?_eq_some_iff.1 ht, dropFront?_eq_some_iff.1 h]
    rfl

/-- **A name starts** with the front of its kind and the front of all manifests. -/
theorem afterFront?_eq_some_iff :
    afterFront? n.toList = some rest ↔ ∃ k : Kind, n.toList = k.front.toList ++ (nameFront ++ rest) :=
  ⟨fun h => ⟨_, toList_of_afterFront? h⟩, fun ⟨_, h⟩ => afterFront?_of_front h⟩

end Front

theorem isAlgorithmChar_iff {c : Char} : isAlgorithmChar c = true ↔ c ≠ '-' ∧ c ≠ '.' := by
  rw [isAlgorithmChar, Bool.and_eq_true, bne_iff_ne, bne_iff_ne]

/-- **The algorithm** is in front of the only dot. -/
theorem algorithmOf?_eq_some_iff {cs a : List Char} :
    algorithmOf? cs = some a ↔ (a ≠ [] ∧ ∀ c ∈ a, isAlgorithmChar c = true) ∧
      ∃ x, (x ≠ [] ∧ '.' ∉ x) ∧ cs = a ++ '.' :: x := by
  unfold algorithmOf?
  constructor
  · intro h
    dsimp only at h
    split at h
    · rename_i e r hd
      split at h
      · cases h
      · rename_i hc
        obtain rfl := Option.some.inj h
        rw [Bool.or_eq_true, not_or, List.contains_iff_mem] at hc
        exact ⟨⟨fun he => hc.1 (List.isEmpty_iff.2 he), fun c => List.mem_takeWhile_imp⟩,
          e :: r, ⟨List.cons_ne_nil _ _, hc.2⟩, by rw [← hd, List.takeWhile_append_dropWhile]⟩
    · cases h
  · rintro ⟨⟨hne, hchars⟩, x, ⟨hx, hdot⟩, rfl⟩
    obtain ⟨e, r, rfl⟩ := List.exists_cons_of_ne_nil hx
    have hstop : ¬ isAlgorithmChar '.' = true := by decide
    have htext : ¬ (a.isEmpty || (e :: r).contains '.') = true := by
      rw [Bool.or_eq_true, not_or, List.isEmpty_iff, List.contains_iff_mem]
      exact ⟨hne, hdot⟩
    rw [List.takeWhile_append_of_pos hchars, List.dropWhile_append_of_pos hchars,
      List.takeWhile_cons_of_neg hstop, List.dropWhile_cons_of_neg hstop, List.append_nil]
    exact if_neg htext

/-- **The end of a name that is searched for**, on one line. -/
theorem endsListed_iff {cs : List Char} :
    endsListed cs = true ↔ ∃ m, '\n' ∉ m ∧ cs = m ++ listedExtension := by
  unfold endsListed
  constructor
  · intro h
    split at h
    · rename_i m hm
      rw [Bool.not_eq_true', List.contains_eq_mem, decide_eq_false_iff_not] at h
      refine ⟨m.reverse, by rwa [List.mem_reverse], ?_⟩
      rw [← List.reverse_inj, dropFront?_eq_some_iff.1 hm, List.reverse_append, List.reverse_reverse]
    · cases h
  · rintro ⟨m, hm, rfl⟩
    rw [List.reverse_append, dropFront?_append]
    simpa using hm

/-! ### Readings -/

theorem toList_reading (k : Kind) (a x : String) :
    (k.front ++ "manifest-" ++ a ++ "." ++ x).toList =
      k.front.toList ++ (nameFront ++ (a.toList ++ '.' :: x.toList)) := by
  unfold nameFront
  rw [String.toList_append, String.toList_append, String.toList_append, String.toList_append,
    List.append_assoc, List.append_assoc, List.append_assoc]
  rfl

/-- A reading of a name: the kind that its front tells, the algorithm, and the extension. -/
structure ReadsAs (n : String) (k : Kind) (algorithm extension : String) : Prop where
  eq_append : n = k.front ++ "manifest-" ++ algorithm ++ "." ++ extension
  algorithm_ne : algorithm ≠ ""
  algorithm_plain : ∀ c ∈ algorithm.toList, c ≠ '-' ∧ c ≠ '.'
  extension_ne : extension ≠ ""
  extension_plain : '.' ∉ extension.toList

instance (n : String) (k : Kind) (a x : String) : Decidable (ReadsAs n k a x) :=
  decidable_of_iff (n = k.front ++ "manifest-" ++ a ++ "." ++ x ∧ a ≠ "" ∧
      (a.toList.all fun c => c ≠ '-' ∧ c ≠ '.') = true ∧ x ≠ "" ∧ '.' ∉ x.toList)
    ⟨fun ⟨h₁, h₂, h₃, h₄, h₅⟩ => ⟨h₁, h₂, by simpa using h₃, h₄, h₅⟩,
      fun ⟨h₁, h₂, h₃, h₄, h₅⟩ => ⟨h₁, h₂, by simpa using h₃, h₄, h₅⟩⟩

section Readings
variable {n a a' x x' : String} {k k' : Kind}

theorem ReadsAs.toList_eq (h : ReadsAs n k a x) :
    n.toList = k.front.toList ++ (nameFront ++ (a.toList ++ '.' :: x.toList)) := by
  rw [h.eq_append, toList_reading]

/-- The kind that is read is the one that the name tells. -/
theorem ReadsAs.ofName_eq (h : ReadsAs n k a x) : Kind.ofName n = k :=
  ofName_of_front h.toList_eq

theorem ReadsAs.notMem_algorithm (h : ReadsAs n k a x) : '.' ∉ a.toList :=
  fun hc => (h.algorithm_plain _ hc).2 rfl

/-- **There is one reading of a name** at most. -/
theorem ReadsAs.unique (h : ReadsAs n k a x) (h' : ReadsAs n k' a' x') : k = k' ∧ a = a' ∧ x = x' := by
  have hk : k = k' := by rw [← h.ofName_eq, h'.ofName_eq]
  have hrest := afterFront?_of_front h.toList_eq
  rw [afterFront?_of_front h'.toList_eq, Option.some.injEq] at hrest
  obtain ⟨ha, -, hx⟩ :=
    (List.append_cons_inj_of_notMem h'.notMem_algorithm h'.extension_plain).1 hrest
  exact ⟨hk, (String.toList_inj.1 ha).symm, (String.toList_inj.1 hx).symm⟩

/-- **The names that tell an algorithm** are those that can be read. -/
theorem algorithm?_eq_some_iff : algorithm? n = some a ↔ ∃ k x, ReadsAs n k a x := by
  unfold algorithm?
  rw [Option.map_eq_some_iff]
  constructor
  · rintro ⟨cs, hcs, rfl⟩
    obtain ⟨rest, hrest, ha⟩ := Option.bind_eq_some_iff.1 hcs
    obtain ⟨k, hn⟩ := afterFront?_eq_some_iff.1 hrest
    obtain ⟨⟨hne, hchars⟩, x, ⟨hx, hdot⟩, rfl⟩ := algorithmOf?_eq_some_iff.1 ha
    refine ⟨k, String.ofList x, String.toList_inj.1 ?_, ?_, ?_, ?_, ?_⟩
    · rw [hn, toList_reading, String.toList_ofList, String.toList_ofList]
    · exact fun he => hne (String.ofList_eq_empty_iff.1 he)
    · rw [String.toList_ofList]
      exact fun c hc => isAlgorithmChar_iff.1 (hchars c hc)
    · exact fun he => hx (String.ofList_eq_empty_iff.1 he)
    · rwa [String.toList_ofList]
  · rintro ⟨k, x, h⟩
    have ha : algorithmOf? (a.toList ++ '.' :: x.toList) = some a.toList :=
      algorithmOf?_eq_some_iff.2 ⟨⟨fun he => h.algorithm_ne (String.toList_eq_nil_iff.1 he),
        fun c hc => isAlgorithmChar_iff.2 (h.algorithm_plain c hc)⟩, x.toList,
        ⟨fun he => h.extension_ne (String.toList_eq_nil_iff.1 he), h.extension_plain⟩, rfl⟩
    refine ⟨a.toList, ?_, String.ofList_toList⟩
    rw [afterFront?_of_front h.toList_eq, Option.bind_some, ha]

end Readings

end ArchivalBag.Manifest

namespace ArchivalBag

open Manifest

variable {n : String}

theorem manifestAlgorithm_eq_ok_iff {a : String} :
    manifestAlgorithm n = .ok a ↔ ∃ k x, ReadsAs n k a x := by
  rw [← algorithm?_eq_some_iff, manifestAlgorithm]
  cases algorithm? n <;> simp

/-- **A name that cannot be read** is reported as it is. -/
theorem manifestAlgorithm_eq_error_iff {e : BagError} :
    manifestAlgorithm n = .error e ↔ (∀ k a x, ¬ ReadsAs n k a x) ∧ e = .unrecognizedManifestName n := by
  have hnone : algorithm? n = none ↔ ∀ k a x, ¬ ReadsAs n k a x := by
    rw [Option.eq_none_iff_forall_ne_some]
    simp only [ne_eq, algorithm?_eq_some_iff, not_exists]
    exact forall_comm
  rw [← hnone, manifestAlgorithm]
  cases algorithm? n <;> simp [eq_comm]

end ArchivalBag

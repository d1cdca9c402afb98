import ArchivalBag.Proofs.Manifest.NameGrammar

/-!
# Names that manifests are written under

The usual name of a manifest tells its kind and its algorithm, and a search of the directory finds it.

* `fileName`: the usual name.
* `algorithm?_fileName`, `ofName_fileName`, `isCandidate_fileName`: what it tells; `isAlgorithm_iff`: it
  tells no more algorithms.
* `fileName_inj`: different manifests have different names.
* `isCandidate_iff`: the names that are found.
* `eq_fileName`: what is found and tells an algorithm has the usual name.
* `names_readOnce`: all names, and what they are read as.
-/

namespace ArchivalBag.Manifest

open Text

/-- The usual name of a manifest. -/
def fileName (k : Kind) (algorithm : String) : String :=
  k.front ++ "manifest-" ++ algorithm ++ ".txt"

/-- The name of an algorithm that the name of a manifest can hold. -/
structure IsAlgorithm (a : String) : Prop where
  ne_empty : a ≠ ""
  plain : ∀ c ∈ a.toList, c ≠ '-' ∧ c ≠ '.' ∧ c ≠ '\n'

instance (a : String) : Decidable (IsAlgorithm a) :=
  decidable_of_iff (a ≠ "" ∧ (a.toList.all fun c => c ≠ '-' ∧ c ≠ '.' ∧ c ≠ '\n') = true)
    ⟨fun ⟨h₁, h₂⟩ => ⟨h₁, by simpa using h₂⟩, fun ⟨h₁, h₂⟩ => ⟨h₁, by simpa using h₂⟩⟩

theorem fileName_eq (k : Kind) (a : String) :
    fileName k a = k.front ++ "manifest-" ++ a ++ "." ++ "txt" := by
  have hext : ".txt" = "." ++ "txt" := rfl
  rw [fileName, hext, ← String.append_assoc]

theorem toList_fileName (k : Kind) (a : String) :
    (fileName k a).toList = k.front.toList ++ (nameFront ++ (a.toList ++ listedExtension)) := by
  rw [fileName_eq, toList_reading]
  rfl

theorem afterFront?_fileName (k : Kind) (a : String) :
    afterFront? (fileName k a).toList = some (a.toList ++ listedExtension) :=
  afterFront?_of_front (toList_fileName k a)

/-- **The kind that the name tells.** -/
theorem ofName_fileName (k : Kind) (a : String) : Kind.ofName (fileName k a) = k :=
  ofName_of_front (toList_fileName k a)

/-- **The algorithm that the name tells.** -/
theorem algorithm?_fileName {a : String} (h : IsAlgorithm a) (k : Kind) :
    algorithm? (fileName k a) = some a :=
  algorithm?_eq_some_iff.2 ⟨k, "txt", fileName_eq k a, h.ne_empty,
    fun c hc => ⟨(h.plain c hc).1, (h.plain c hc).2.1⟩, by decide, by decide⟩

/-- A search of the directory passes a name with a line feed. -/
theorem isCandidate_fileName_iff {k : Kind} {a : String} :
    isCandidate (fileName k a) = true ↔ '\n' ∉ a.toList := by
  unfold isCandidate
  rw [afterFront?_fileName, Option.any_some, endsListed_iff]
  constructor
  · rintro ⟨m, hm, heq⟩
    rwa [List.append_cancel_right heq]
  · exact fun h => ⟨a.toList, h, rfl⟩

theorem isCandidate_fileName {a : String} (h : IsAlgorithm a) (k : Kind) :
    isCandidate (fileName k a) = true :=
  isCandidate_fileName_iff.2 fun hc => (h.plain _ hc).2.2 rfl

/-- A manifest is not named like anything that starts with another letter. -/
theorem fileName_ne_of_head? {k : Kind} {a n : String} (hm : n.toList.head? ≠ some 'm')
    (ht : n.toList.head? ≠ some 't') : fileName k a ≠ n := by
  rintro rfl
  rw [toList_fileName] at hm ht
  cases k with
  | payload => exact hm rfl
  | tag => exact ht rfl

/-- **Different manifests have different names.** -/
theorem fileName_inj {k k' : Kind} {a a' : String} (h : fileName k a = fileName k' a') :
    k = k' ∧ a = a' := by
  have hk : k = k' := by rw [← ofName_fileName k a, h, ofName_fileName]
  have hr := afterFront?_fileName k a
  rw [h, afterFront?_fileName] at hr
  exact ⟨hk, String.toList_inj.1 (List.append_cancel_right (Option.some.inj hr)).symm⟩

/-! ### Names with the extension that is searched for -/

/-- **A reading of a name with this extension** tells that it is the usual name. -/
theorem ReadsAs.eq_fileName {n s a x : String} {k : Kind} (h : ReadsAs n k a x) (hn : n = s ++ ".txt") :
    n = fileName k a := by
  have hfront : '.' ∉ k.front.toList ++ (nameFront ++ a.toList) := by
    rw [List.mem_append, List.mem_append, not_or, not_or]
    exact ⟨by cases k <;> decide, by decide, h.notMem_algorithm⟩
  have heq : (k.front.toList ++ (nameFront ++ a.toList)) ++ '.' :: x.toList =
      s.toList ++ '.' :: ['t', 'x', 't'] := by
    rw [List.append_assoc, List.append_assoc, ← h.toList_eq, hn, String.toList_append]
    rfl
  -- the only dot of the name starts both extensions
  obtain ⟨-, -, hx⟩ := (List.append_cons_inj_of_notMem hfront h.extension_plain).1 heq
  have hext : x = "txt" := String.toList_inj.1 hx
  rw [h.eq_append, hext, fileName_eq]

/-- The usual name of anything is read as nothing else. -/
theorem ReadsAs.of_fileName {m a x : String} {k k' : Kind} (h : ReadsAs (fileName k' m) k a x) :
    k = k' ∧ m = a := by
  obtain ⟨hk, hm⟩ := fileName_inj (h.eq_fileName rfl)
  exact ⟨hk.symm, hm⟩

/-- **The names that can be written**: the usual name is found and tells the algorithm. -/
theorem isAlgorithm_iff {k : Kind} {a : String} :
    IsAlgorithm a ↔ algorithm? (fileName k a) = some a ∧ isCandidate (fileName k a) = true := by
  constructor
  · exact fun h => ⟨algorithm?_fileName h k, isCandidate_fileName h k⟩
  · rintro ⟨ha, hc⟩
    obtain ⟨k', x, h⟩ := algorithm?_eq_some_iff.1 ha
    rw [isCandidate_fileName_iff] at hc
    exact ⟨h.algorithm_ne, fun c hmem =>
      ⟨(h.algorithm_plain c hmem).1, (h.algorithm_plain c hmem).2, fun hn => hc (hn ▸ hmem)⟩⟩

/-- **The names that are found** are the usual ones of anything on one line. -/
theorem isCandidate_iff {n : String} :
    isCandidate n = true ↔ ∃ k m, n = fileName k m ∧ '\n' ∉ m.toList := by
  constructor
  · intro h
    unfold isCandidate at h
    cases hr : afterFront? n.toList with
    | none => rw [hr] at h; cases h
    | some rest =>
      rw [hr, Option.any_some] at h
      obtain ⟨m, hm, rfl⟩ := endsListed_iff.1 h
      refine ⟨Kind.ofName n, String.ofList m, String.toList_inj.1 ?_, by rwa [String.toList_ofList]⟩
      rw [toList_of_afterFront? hr, toList_fileName, String.toList_ofList]
  · rintro ⟨k, m, rfl, hm⟩
    exact isCandidate_fileName_iff.2 hm

-- what is found need not tell an algorithm, nor the other way round
example : isCandidate "manifest-sha-256.txt" = true ∧ algorithm? "manifest-sha-256.txt" = none := by
  decide
example : isCandidate "manifest-md5.md" = false ∧ algorithm? "manifest-md5.md" = some "md5" := by
  decide

/-- **A name that is found and tells an algorithm** is the usual name of the manifest. -/
theorem eq_fileName {n a : String} (hc : isCandidate n = true) (ha : algorithm? n = some a) :
    n = fileName (Kind.ofName n) a := by
  obtain ⟨k, m, rfl, -⟩ := isCandidate_iff.1 hc
  obtain ⟨k', x, h⟩ := algorithm?_eq_some_iff.1 ha
  rw [ofName_fileName, h.of_fileName.2]

/-- **Each name of a manifest is read in one way.** The algorithm that a name tells is that of its only
reading, whose kind is the one that the name tells; any other name is reported as it is. The names that
a search finds are the usual ones of anything on one line, and this is the algorithm if the name tells
one, so that no two names that are found tell the same kind and the same algorithm. -/
theorem names_readOnce (n : String) :
    (∀ a, manifestAlgorithm n = .ok a ↔ ∃ k x, ReadsAs n k a x) ∧
    (∀ k a x k' a' x', ReadsAs n k a x → ReadsAs n k' a' x' → k = k' ∧ a = a' ∧ x = x') ∧
    (∀ k a x, ReadsAs n k a x → Kind.ofName n = k) ∧
    (∀ e, manifestAlgorithm n = .error e ↔
      (∀ k a x, ¬ ReadsAs n k a x) ∧ e = .unrecognizedManifestName n) ∧
    (isCandidate n = true ↔ ∃ k m, n = fileName k m ∧ '\n' ∉ m.toList) ∧
    (∀ k m k' a x, n = fileName k m → ReadsAs n k' a x → k' = k ∧ m = a) ∧
    ∀ n' a, isCandidate n = true → isCandidate n' = true → manifestAlgorithm n = .ok a →
      manifestAlgorithm n' = .ok a → Kind.ofName n = Kind.ofName n' → n = n' := by
  refine ⟨fun a => manifestAlgorithm_eq_ok_iff, fun k a x k' a' x' h h' => h.unique h',
    fun k a x h => h.ofName_eq, fun e => manifestAlgorithm_eq_error_iff, isCandidate_iff,
    fun k m k' a x hn h => (hn ▸ h).of_fileName, fun n' a hc hc' ha ha' hk => ?_⟩
  have hname : ∀ n, manifestAlgorithm n = .ok a → algorithm? n = some a := fun n h =>
    algorithm?_eq_some_iff.2 (manifestAlgorithm_eq_ok_iff.1 h)
  rw [eq_fileName hc (hname n ha), eq_fileName hc' (hname n' ha'), hk]

/-- Neither `tag` nor `manifest` in the place of the algorithm is taken for a front. -/
theorem names_readOnce_fronts :
    ReadsAs "tagmanifest-tagmanifest.txt" .tag "tagmanifest" "txt" ∧
      Kind.ofName "tagmanifest-tagmanifest.txt" = .tag ∧
      "tagmanifest-tagmanifest.txt" = fileName .tag "tagmanifest" ∧
      (isCandidate "tagmanifest-tagmanifest.txt" = true ∧
        manifestAlgorithm "tagmanifest-tagmanifest.txt" = .ok "tagmanifest") ∧
      ∀ n, isCandidate n = true → manifestAlgorithm n = .ok "tagmanifest" → Kind.ofName n = .tag →
        n = "tagmanifest-tagmanifest.txt" := by
  obtain ⟨hok, -, hkind, -, hfound, -, hsame⟩ := names_readOnce "tagmanifest-tagmanifest.txt"
  have hread : ReadsAs "tagmanifest-tagmanifest.txt" .tag "tagmanifest" "txt" := by decide
  have hname : "tagmanifest-tagmanifest.txt" = fileName .tag "tagmanifest" := by decide
  have hk : Kind.ofName "tagmanifest-tagmanifest.txt" = .tag := hkind _ _ _ hread
  have ha : manifestAlgorithm "tagmanifest-tagmanifest.txt" = .ok "tagmanifest" :=
    (hok _).2 ⟨_, _, hread⟩
  have hc : isCandidate "tagmanifest-tagmanifest.txt" = true := hfound.2 ⟨_, _, hname, by decide⟩
  exact ⟨hread, hk, hname, ⟨hc, ha⟩, fun n hcn han hkn =>
    (hsame n _ hc hcn ha han (hk.trans hkn.symm)).symm⟩

end ArchivalBag.Manifest

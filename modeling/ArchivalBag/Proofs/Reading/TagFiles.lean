import ArchivalBag.Proofs.Reading.ManifestEntries
import ArchivalBag.Reading.TagFile

/-!
# When a tag file is read

The text of a file is all that a reader of tag files asks for: what the file says is what its lines
say, and the same bytes at the same path say the same.

* `readText_eq_ok_iff`, `exists_fault_of_readText`: when a file has a text, and what is reported if not.
* `readManifest_eq_ok_iff`: a manifest is read exactly if its lines are.
* `readText_congr`, `readManifest_congr`: nothing but the bytes of the file counts, and of these nothing
  but the text.
-/

namespace ArchivalBag

variable {t t' : FileTree} {e : TextEncoding} {p root : Path}

/-! ### The text of a file -/

/-- **A file has a text** if its bytes can be read and stand for one. -/
theorem readText_eq_ok_iff {s : String} :
    (readText t e p).outcome = .ok s ↔ ∃ bytes, t.read p = .ok bytes ∧ e.decodeFile? bytes = some s := by
  unfold readText
  cases t.read p with
  | error f => simp
  | ok bytes =>
    dsimp only
    cases hd : e.decodeFile? bytes with
    | none => simp [hd]
    | some s' => simp [hd]

/-- The bytes of a file are its text or its fault. -/
theorem readText_eq_of_read {b : List UInt8} (h : t.read p = .ok b) :
    readText t e p = (e.decodeFile? b).elim (.fail (.fileUnreadable p (.notText e.name))) pure := by
  rw [readText, h]
  dsimp only
  cases e.decodeFile? b <;> rfl

/-- **A file without a text** is reported by its path. -/
theorem exists_fault_of_readText {x : BagError} (h : (readText t e p).outcome = .error x) :
    ∃ f, x = .fileUnreadable p f := by
  unfold readText at h
  split at h
  · exact ⟨_, (Except.error.inj h).symm⟩
  · split at h
    · cases h
    · exact ⟨_, (Except.error.inj h).symm⟩

theorem readText_congr (h : t.read p = t'.read p) : readText t e p = readText t' e p := by
  rw [readText, readText, h]

/-! ### Manifests -/

theorem Path.NamesManifest.judgeName_eq {algorithm : String} (h : p.NamesManifest algorithm) :
    judgeName p = pure () := by
  obtain ⟨name, hn, ha⟩ := h
  rw [judgeName, hn]
  dsimp only
  rw [manifestAlgorithm, ha]

/-- **A manifest is read** if the file has a text and its lines are those of a manifest. -/
theorem readManifest_eq_ok_iff {m : Manifest} :
    (readManifest t e p root).outcome = .ok m ↔
      ∃ text, (readText t e p).outcome = .ok text ∧
        (parseManifest p (Text.lines text) root).outcome = .ok m := by
  unfold readManifest
  rw [Reading.outcome_note_bind, Reading.outcome_bind_eq_ok_iff]
  constructor
  · rintro ⟨_, -, h⟩
    exact Reading.outcome_bind_eq_ok_iff.1 h
  · rintro ⟨text, htext, hm⟩
    obtain ⟨algorithm, -, -, hf, -⟩ := exists_pairs_of_parseManifest hm
    exact ⟨(), by rw [hf.judgeName_eq]; rfl, Reading.outcome_bind_eq_ok_iff.2 ⟨text, htext, hm⟩⟩

/-- The name of a file tells the algorithm of the manifest that is read from it. -/
theorem namesManifest_of_readManifest {m : Manifest} (h : (readManifest t e p root).outcome = .ok m) :
    p.NamesManifest m.algorithm := by
  obtain ⟨text, -, hm⟩ := readManifest_eq_ok_iff.1 h
  obtain ⟨algorithm, r, pairs, hf, -, -, rfl⟩ := exists_pairs_of_parseManifest hm
  rw [Manifest.algorithm_ofList]
  exact hf

theorem readManifest_congr (h : readText t e p = readText t' e p) :
    readManifest t e p root = readManifest t' e p root := by
  rw [readManifest, readManifest, h]

end ArchivalBag

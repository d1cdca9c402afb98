import ArchivalBag.Proofs.Reading.DraftFiles

/-!
# What the lines of a draft can hold

The conditions on the manifests and the fields of a draft are the weakest ones: whatever reads back as it
was written meets them. Were a line feed in a path, it would be in a content line, and were a carriage
return at its end, the line would have lost it.

* `forall₂_givesChecksum_iff`: the pairs that read back.
* `exists_cut_iff`: the fields that read back.
* `ManifestDraft.readsBack_iff`, `fieldsReadBack_iff`: the files that do.
* `BagDraft.isWritable_iff`: the drafts that can be written are those whose files read back.
-/

namespace ArchivalBag

open Text Encoding

/-! ### Pairs -/

/-- What a content line gives holds no line feed. -/
theorem notMem_of_givesChecksum {t : List Char} {x : String × String} (h : GivesChecksum t x)
    (ht : '\n' ∉ t) : '\n' ∉ x.1.toList ∧ '\n' ∉ x.2.toList := by
  obtain ⟨gap, -, -, -, rfl⟩ := h
  rw [List.mem_append, List.mem_append, not_or, not_or] at ht
  exact ⟨ht.1.1, ht.2⟩

theorem notMem_pairLine {x : String × String} (h : '\n' ∉ x.1.toList ∧ '\n' ∉ x.2.toList) :
    '\n' ∉ (pairLine x).toList := by
  rw [toList_pairLine, List.mem_append, List.mem_append, not_or, not_or]
  exact ⟨⟨h.1, by decide⟩, h.2⟩

/-- A pair that is still given by its line when carriage returns are taken off the line. -/
theorem isPairDraft_of_gives {x : String × String} (hx : '\n' ∉ x.2.toList)
    (h : GivesChecksum (dropReturn (dropReturn (pairLine x).toList)) x) : IsPairDraft x := by
  obtain ⟨gap, hc, hgap, hp, ht⟩ := h
  refine ⟨hc, hp, hx, fun hlast => ?_⟩
  have hline : (pairLine x).toList.getLast? = some '\r' := by
    rw [toList_pairLine, List.getLast?_append_of_ne_nil _ hp.1]
    exact hlast
  -- the line is now too short for the pair
  have hlt := length_dropReturn_lt hline
  have hle := length_dropReturn_le (dropReturn (pairLine x).toList)
  have hgap' := List.length_pos_iff.2 hgap.1
  rw [ht, toList_pairLine] at hle
  rw [toList_pairLine] at hlt
  simp only [List.length_append, List.length_cons, List.length_nil] at hlt hle
  omega

/-- **The pairs that read back** are those that a line can hold. -/
theorem forall₂_givesChecksum_iff {pairs : List (String × String)} :
    List.Forall₂ GivesChecksum
        ((lines (endedText (pairs.map pairLine))).filterMap content?) pairs ↔
      ∀ x ∈ pairs, IsPairDraft x := by
  refine ⟨fun h => ?_, forall₂_givesChecksum⟩
  have hnl : ∀ x ∈ pairs, '\n' ∉ x.1.toList ∧ '\n' ∉ x.2.toList := by
    intro x hx
    obtain ⟨t, ht, hgives⟩ := exists_mem_of_forall₂ h hx
    exact notMem_of_givesChecksum hgives (notMem_of_mem_content ht)
  have hlines : ∀ l ∈ (pairs.map pairLine).map String.toList, '\n' ∉ l := by
    intro l hl
    obtain ⟨s, hs, rfl⟩ := List.mem_map.1 hl
    obtain ⟨x, hx, rfl⟩ := List.mem_map.1 hs
    exact notMem_pairLine (hnl x hx)
  have hlen := h.length_eq
  rw [endedText_eq] at h hlen
  rw [content_eq_map hlines (by rw [hlen, List.length_map, List.length_map])] at h
  rw [List.forall₂_map_left_iff, List.forall₂_map_left_iff, List.forall₂_map_left_iff,
    List.forall₂_same] at h
  exact fun x hx => isPairDraft_of_gives (hnl x hx).2 (h x hx)

/-! ### Fields -/

/-- What a block gives, when its key line holds no line feed. -/
theorem exists_of_says {b : Block} (hb : b.WellFormed) {f : String × String}
    (h : b.Says tagDelimiter.toList f) (hnl : '\n' ∉ b.head) :
    IsKeyDraft f.1 ∧ ∃ first, f.2 = String.ofList first ++ Block.foldText b.folds ∧
      trim first = first ∧ '\n' ∉ first := by
  obtain ⟨v, ⟨a, c, hcut, hne, hk, rfl⟩, hval⟩ := h
  obtain ⟨hhead, hcolon⟩ := isFirstCut_singleton_iff.1 hcut
  have hvis : StartsVisible a := by
    have hv := isFold_eq_false_iff.1 hb.1
    rw [hhead, List.append_assoc] at hv
    exact hv.of_append
  rw [hhead, List.mem_append, List.mem_append, not_or, not_or] at hnl
  have hkey : f.1.toList = trim a := by rw [hk, String.toList_ofList]
  refine ⟨⟨fun he => trim_ne_nil hne hvis ?_, ?_, fun x hx => ?_⟩, trim c, hval, trim_trim c, ?_⟩
  · rw [← hkey, he]
    rfl
  · rw [hkey, trim_trim]
  · rw [hkey] at hx
    have hmem := mem_of_mem_trim hx
    refine ⟨?_, ?_⟩
    · rintro rfl
      exact hcolon hmem
    · rintro rfl
      exact hnl.1.1 hmem
  · exact fun hmem => hnl.2 (mem_of_mem_trim hmem)

/-- Fields that blocks give are written as blocks with the same folds. -/
theorem exists_written {bs : List Block} {fields : List (String × String)}
    (hs : List.Forall₂ (Block.Says tagDelimiter.toList) bs fields)
    (hb : ∀ b ∈ bs, b.WellFormed) (hnl : ∀ b ∈ bs, ∀ l ∈ b.lines, '\n' ∉ l) :
    ∃ bs' : List Block,
      List.Forall₂
        (fun f b => (fieldLine f).toList ++ ['\n'] = b.lines.flatMap (· ++ ['\n'])) fields bs' ∧
      (∀ l ∈ bs'.flatMap Block.lines, '\n' ∉ l) ∧
      List.Forall₂ (fun b b' => b'.folds = b.folds) bs bs' := by
  induction hs with
  | nil => exact ⟨[], .nil, by simp, .nil⟩
  | @cons b f bs fields hsays _ ih =>
    obtain ⟨bs', hended, hnl', hfolds⟩ := ih (fun b' hb' => hb b' (List.mem_cons_of_mem b hb'))
      fun b' hb' => hnl b' (List.mem_cons_of_mem b hb')
    have hbnl := hnl b List.mem_cons_self
    obtain ⟨hkey, first, hval, -, hfirst⟩ :=
      exists_of_says (hb b List.mem_cons_self) hsays (hbnl b.head List.mem_cons_self)
    refine ⟨⟨f.1.toList ++ [':', ' '] ++ first, b.folds⟩ :: bs', .cons (ended_fieldLine hval) hended,
      fun l hl => ?_, .cons rfl hfolds⟩
    rw [List.flatMap_cons, List.mem_append] at hl
    rcases hl with hl | hl
    · rcases List.mem_cons.1 hl with rfl | hl
      · rw [List.mem_append, List.mem_append, not_or, not_or]
        exact ⟨⟨fun hmem => (hkey.plain _ hmem).2 rfl, by decide⟩, hfirst⟩
      · exact hbnl l (List.mem_cons_of_mem b.head hl)
    · exact hnl' l hl

theorem length_flatMap_lines {bs bs' : List Block}
    (h : List.Forall₂ (fun b b' => b'.folds = b.folds) bs bs') :
    (bs.flatMap Block.lines).length = (bs'.flatMap Block.lines).length := by
  induction h with
  | nil => rfl
  | cons hf _ ih =>
    rw [List.flatMap_cons, List.flatMap_cons, List.length_append, List.length_append, ih, Block.lines,
      Block.lines, hf]
    rfl

/-- Folds that are the images of themselves. -/
theorem folds_eq_map {g : List Char → List Char} {bs bs' : List Block}
    (h : List.Forall₂ (fun b b' => b'.folds = b.folds) bs bs')
    (he : bs.flatMap Block.lines = (bs'.flatMap Block.lines).map g) :
    ∀ b ∈ bs, b.folds = b.folds.map g := by
  induction h with
  | nil => simp
  | cons hf _ ih =>
    rename_i b b' bs bs' _
    rw [List.flatMap_cons, List.flatMap_cons, List.map_append] at he
    have hlen : b.lines.length = (b'.lines.map g).length := by
      rw [List.length_map, Block.lines, Block.lines, hf]
      rfl
    obtain ⟨hlines, hrest⟩ := List.append_inj he hlen
    intro b₁ hb₁
    rcases List.mem_cons.1 hb₁ with rfl | hb₁
    · have htail := (List.cons.inj hlines).2
      rwa [hf] at htail
    · exact ih hrest b₁ hb₁

/-- A fold that is left when carriage returns are taken off it. -/
theorem isPlainLine_fold {l : List Char} (hf : isFold l = true) (hn : '\n' ∉ l)
    (h : dropReturn (dropReturn l) = l) : IsPlainLine l where
  ne_nil := by
    rintro rfl
    cases hf
  notMem := hn
  getLast?_ne hlast := by
    have hlt := length_dropReturn_lt hlast
    have hle := length_dropReturn_le (dropReturn l)
    rw [h] at hle
    omega

/-- **The fields that read back** are those that a line and its folds can hold. -/
theorem exists_cut_iff {fields : List (String × String)} :
    (∃ bs, IsCut ((lines (endedText (fields.map fieldLine))).filterMap content?) bs ∧
      List.Forall₂ (Block.Says tagDelimiter.toList) bs fields) ↔ ∀ f ∈ fields, IsFieldDraft f := by
  refine ⟨?_, exists_cut_of_fields⟩
  rintro ⟨bs, hc, hs⟩ f hf
  have hnl : ∀ b ∈ bs, ∀ l ∈ b.lines, '\n' ∉ l := by
    intro b hb l hl
    have hmem : l ∈ (lines (endedText (fields.map fieldLine))).filterMap content? := by
      rw [hc.eq]
      exact List.mem_flatMap.2 ⟨b, hb, hl⟩
    exact notMem_of_mem_content hmem
  -- the folds are their own images under what is done to the lines of the text
  obtain ⟨bs', hended, hnl', hfolds⟩ := exists_written hs hc.wellFormed hnl
  have heq := hc.eq
  rw [endedText_fields hended] at heq
  have hmap := content_eq_map hnl' (by rw [heq, length_flatMap_lines hfolds])
  rw [heq] at hmap
  obtain ⟨b, hb, hsays⟩ := exists_mem_of_forall₂ hs hf
  obtain ⟨hkey, first, hval, hfirst, hn⟩ :=
    exists_of_says (hc.wellFormed b hb) hsays (hnl b hb b.head List.mem_cons_self)
  have hself := folds_eq_map hfolds hmap b hb
  have hid : b.folds.map (fun l => dropReturn (dropReturn l)) = b.folds.map id := by
    rw [← hself, List.map_id]
  refine ⟨hkey, first, b.folds, hval, hfirst, hn, fun l hl => ?_⟩
  have hfold := (hc.wellFormed b hb).2 l hl
  exact ⟨hfold, isPlainLine_fold hfold (hnl b hb l (List.mem_cons_of_mem b.head hl))
    (List.map_inj_left.1 hid l hl)⟩

/-! ### Whole files -/

/-- **The file of a manifest says what was drafted**: a search finds its name, which tells the algorithm,
its bytes stand for its text, and its content lines give the pairs. -/
structure ManifestDraft.ReadsBack (m : ManifestDraft) : Prop where
  isCandidate : Manifest.isCandidate m.fileName = true
  algorithm : Manifest.algorithm? m.fileName = some m.algorithm
  text : TextEncoding.decodeFile? .utf8 (Utf8.encode m.text) = some m.text
  pairs : List.Forall₂ GivesChecksum ((lines m.text).filterMap content?) m.pairs

/-- **The file of some fields says them**: its bytes stand for its text, and its content lines are blocks
that give the fields. -/
structure FieldsReadBack (fields : List (String × String)) : Prop where
  text : TextEncoding.decodeFile? .utf8 (Utf8.encode (endedText (fields.map fieldLine))) =
    some (endedText (fields.map fieldLine))
  blocks : ∃ bs, IsCut ((lines (endedText (fields.map fieldLine))).filterMap content?) bs ∧
    List.Forall₂ (Block.Says tagDelimiter.toList) bs fields

theorem ManifestDraft.readsBack_iff {m : ManifestDraft} :
    m.ReadsBack ↔
      Manifest.IsAlgorithm m.algorithm ∧ IsUnmarked m.text ∧ ∀ x ∈ m.pairs, IsPairDraft x := by
  constructor
  · intro h
    exact ⟨Manifest.isAlgorithm_iff.2 ⟨h.algorithm, h.isCandidate⟩,
      TextEncoding.decodeFile?_encode_iff.1 h.text, forall₂_givesChecksum_iff.1 h.pairs⟩
  · rintro ⟨halgorithm, htext, hpairs⟩
    obtain ⟨htold, hfound⟩ := Manifest.isAlgorithm_iff.1 halgorithm
    exact ⟨hfound, htold, TextEncoding.decodeFile?_encode_iff.2 htext,
      forall₂_givesChecksum_iff.2 hpairs⟩

theorem fieldsReadBack_iff {fields : List (String × String)} :
    FieldsReadBack fields ↔
      IsUnmarked (endedText (fields.map fieldLine)) ∧ ∀ f ∈ fields, IsFieldDraft f := by
  constructor
  · intro h
    exact ⟨TextEncoding.decodeFile?_encode_iff.1 h.text, exists_cut_iff.1 h.blocks⟩
  · rintro ⟨htext, hfields⟩
    exact ⟨TextEncoding.decodeFile?_encode_iff.2 htext, exists_cut_iff.2 hfields⟩

/-- **The drafts that can be written** are those whose manifests and fields read back from their files,
under names and keys that are not repeated. For the items it is asked of each that its line can hold it. -/
theorem BagDraft.isWritable_iff {d : BagDraft} :
    d.IsWritable ↔
      (∀ m ∈ d.manifests, m.ReadsBack) ∧ (d.manifests.map ManifestDraft.fileName).Nodup ∧
        FieldsReadBack d.fields ∧ (d.fields.map Prod.fst).Nodup ∧ ∀ i ∈ d.items, i.IsWritable := by
  constructor
  · intro h
    exact ⟨fun m hm => ManifestDraft.readsBack_iff.2
        ⟨h.isAlgorithm m hm, h.isUnmarked m hm, h.isPair m hm⟩,
      ManifestDraft.nodup_fileName_iff.2 h.nodup, fieldsReadBack_iff.2 ⟨h.isUnmarked_metadata, h.isField⟩,
      h.nodup_keys, h.isFetch⟩
  · rintro ⟨hmanifests, hnames, hfields, hkeys, hitems⟩
    obtain ⟨hunmarked, hfield⟩ := fieldsReadBack_iff.1 hfields
    have hmanifest (m : ManifestDraft) (hm : m ∈ d.manifests) :=
      ManifestDraft.readsBack_iff.1 (hmanifests m hm)
    exact {
      isAlgorithm := fun m hm => (hmanifest m hm).1
      isPair := fun m hm => (hmanifest m hm).2.2
      isUnmarked := fun m hm => (hmanifest m hm).2.1
      nodup := ManifestDraft.nodup_fileName_iff.1 hnames
      isField := hfield
      nodup_keys := hkeys
      isUnmarked_metadata := hunmarked
      isFetch := hitems }

end ArchivalBag

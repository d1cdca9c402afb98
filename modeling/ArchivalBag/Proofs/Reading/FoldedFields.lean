import ArchivalBag.Proofs.Metadata
import ArchivalBag.Proofs.Reading.LineGrammar
import ArchivalBag.Proofs.Reading.LineReader
import ArchivalBag.Proofs.Text.ContentLines

/-!
# Blocks of a key line and its folds

The content lines of a file of fields are cut into blocks, each a key line and the folds behind it.
A block gives a key a value: what stands behind the delimiter, and each fold on a line of its own. The
file is then read as the list of what its blocks say, given one after the other.

* `IsCut`: the blocks of some lines; `exists_cut`: lines that do not start with a fold have blocks.
* `outcome_run_blocks`: the reader takes one block at a time.
* `parseFields_eq_ok_iff_blocks`: what a file of fields says, and when it says anything.
-/

namespace ArchivalBag

open Text

/-- A key line with the folds that follow it. -/
structure Block where
  head : List Char
  folds : List (List Char)

namespace Block

/-- The lines of a block. -/
def lines (b : Block) : List (List Char) :=
  b.head :: b.folds

/-- Only the first line of the block is no fold. -/
def WellFormed (b : Block) : Prop :=
  isFold b.head = false ∧ ∀ f ∈ b.folds, isFold f = true

/-- What folds add to a value: each of them whole, after a line feed. -/
def foldText (folds : List (List Char)) : String :=
  String.ofList (folds.flatMap ('\n' :: ·))

/-- The key and the value that a block gives. -/
def Says (delimiter : List Char) (b : Block) (field : String × String) : Prop :=
  ∃ v, IsKeyLine delimiter b.head field.1 v ∧ field.2 = v ++ foldText b.folds

theorem foldText_nil : foldText [] = "" := rfl

theorem foldText_cons (f : List Char) (fs : List (List Char)) :
    foldText (f :: fs) = "\n" ++ String.ofList f ++ foldText fs := by
  rw [foldText, List.flatMap_cons, List.cons_append, ← String.toList_inj]
  simp [foldText]

end Block

/-- The cut of some lines into blocks. -/
structure IsCut (texts : List (List Char)) (bs : List Block) : Prop where
  eq : texts = bs.flatMap Block.lines
  wellFormed : ∀ b ∈ bs, b.WellFormed

/-- The lines are those of a file that can be read: no fold comes first, and every other line has a
delimiter that it does not start with. -/
structure AcceptableFields (delimiter : List Char) (texts : List (List Char)) : Prop where
  first : ∀ t ∈ texts.head?, isFold t = false
  keys : ∀ t ∈ texts, isFold t = false → delimiter <:+: t ∧ ¬ delimiter <+: t

/-- The empty delimiter stands at the front of every line. -/
theorem acceptableFields_nil_iff {texts : List (List Char)} :
    AcceptableFields [] texts ↔ texts = [] := by
  constructor
  · intro h
    cases texts with
    | nil => rfl
    | cons t texts =>
      exact absurd List.nil_prefix (h.keys t List.mem_cons_self (h.first t rfl)).2
  · rintro rfl
    exact ⟨by simp, by simp⟩

/-! ### Cutting lines into blocks -/

/-- Any lines are folds and then blocks, and the blocks say something if their key lines do. -/
theorem exists_folds_cut {d : List Char} {texts : List (List Char)}
    (hk : ∀ t ∈ texts, isFold t = false → d <:+: t ∧ ¬ d <+: t) :
    ∃ fs bs fields, texts = fs ++ bs.flatMap Block.lines ∧ (∀ f ∈ fs, isFold f = true) ∧
      (∀ b ∈ bs, b.WellFormed) ∧ List.Forall₂ (Block.Says d) bs fields := by
  induction texts with
  | nil => exact ⟨[], [], [], rfl, by simp, by simp, .nil⟩
  | cons t texts ih =>
    obtain ⟨fs, bs, fields, htexts, hfs, hbs, hsays⟩ :=
      ih fun u hu => hk u (List.mem_cons_of_mem t hu)
    cases hf : isFold t with
    | true =>
      refine ⟨t :: fs, bs, fields, by rw [htexts]; rfl, fun f hmem => ?_, hbs, hsays⟩
      rcases List.mem_cons.1 hmem with rfl | hmem
      · exact hf
      · exact hfs f hmem
    | false =>
      obtain ⟨k, v, hkv⟩ := (exists_isKeyLine_iff hf).2 (hk t List.mem_cons_self hf)
      refine ⟨[], ⟨t, fs⟩ :: bs, (k, v ++ Block.foldText fs) :: fields, ?_, by simp, ?_,
        .cons ⟨v, hkv, rfl⟩ hsays⟩
      · rw [htexts]; rfl
      · intro b hmem
        rcases List.mem_cons.1 hmem with rfl | hmem
        · exact ⟨hf, hfs⟩
        · exact hbs b hmem

/-- **Acceptable lines are cut into blocks that say something.** -/
theorem exists_cut {d : List Char} {texts : List (List Char)} (h : AcceptableFields d texts) :
    ∃ bs fields, IsCut texts bs ∧ List.Forall₂ (Block.Says d) bs fields := by
  obtain ⟨fs, bs, fields, htexts, hfs, hbs, hsays⟩ := exists_folds_cut h.keys
  cases fs with
  | nil => exact ⟨bs, fields, ⟨htexts, hbs⟩, hsays⟩
  | cons f fs =>
    have hf := h.first f (by rw [htexts]; rfl)
    rw [hfs f List.mem_cons_self] at hf
    cases hf

/-! ### Reading a block at a time -/

section Run
variable {source : Path} {d : List Char}

/-- The folds behind a key line go to its value. -/
theorem outcome_run_folds {fs : List Line} (hf : ∀ l ∈ fs, isFold l.text = true) (ls : List Line)
    (m : Metadata) (k v : String) :
    ((fieldReader source d).run (m.insert k v, some k) (fs ++ ls)).outcome =
      ((fieldReader source d).run
        (m.insert k (v ++ Block.foldText (fs.map Line.text)), some k) ls).outcome := by
  induction fs generalizing v with
  | nil => simp [Block.foldText_nil]
  | cons l fs ih =>
    have hstep : (fieldReader source d).step (m.insert k v, some k) l = _ :=
      fieldReader_step_fold_some (hf l List.mem_cons_self) (m.insert k v) k
    rw [List.cons_append, LineReader.outcome_run_cons_of_ok hstep, Metadata.appendLine_insert,
      ih fun l' hl' => hf l' (List.mem_cons_of_mem l hl'), List.map_cons, Block.foldText_cons]
    simp only [String.append_assoc]

/-- A block gives its key its value. -/
theorem outcome_run_block {b : Block} (hb : b.WellFormed) {field : String × String}
    (hs : b.Says d field) {bl : List Line} (hl : bl.map Line.text = b.lines) (ls : List Line)
    (m : Metadata) (last : Option String) :
    ((fieldReader source d).run (m, last) (bl ++ ls)).outcome =
      ((fieldReader source d).run (m.insert field.1 field.2, some field.1) ls).outcome := by
  obtain ⟨l, fs, rfl, hhead, hfolds⟩ := List.map_eq_cons_iff.1 hl
  obtain ⟨v, hkv, hval⟩ := hs
  have hf : isFold l.text = false := by rw [hhead]; exact hb.1
  have hkey : keyLine? d l.text = some (field.1, v) := by
    rw [keyLine?_eq_some_iff hf, hhead]; exact hkv
  have hmem : ∀ l' ∈ fs, isFold l'.text = true := fun l' hl' =>
    hb.2 _ (by rw [← hfolds]; exact List.mem_map_of_mem hl')
  rw [List.cons_append, LineReader.outcome_run_cons_of_ok (fieldReader_step_key_some hf hkey _),
    outcome_run_folds hmem, hfolds, hval]

/-- **The blocks are read one after the other.** -/
theorem outcome_run_blocks {bs : List Block} (hb : ∀ b ∈ bs, b.WellFormed)
    {fields : List (String × String)} (hs : List.Forall₂ (Block.Says d) bs fields) {ls : List Line}
    (hl : ls.map Line.text = bs.flatMap Block.lines) (m : Metadata) (last : Option String) :
    ∃ last', ((fieldReader source d).run (m, last) ls).outcome =
      .ok (fields.foldl (fun m (k, v) => m.insert k v) m, last') := by
  induction hs generalizing ls m last with
  | nil =>
    obtain rfl := List.map_eq_nil_iff.1 hl
    exact ⟨last, rfl⟩
  | cons hsays _ ih =>
    obtain ⟨bl, ls, rfl, hbl, hls⟩ := List.map_eq_append_iff.1 hl
    rw [outcome_run_block (hb _ List.mem_cons_self) hsays hbl]
    exact ih (fun b' hb' => hb b' (List.mem_cons_of_mem _ hb')) hls _ _

/-- What the reader does not reject is acceptable. -/
theorem keys_of_run_eq_ok {ls : List Line} {s s' : Metadata × Option String}
    (h : ((fieldReader source d).run s ls).outcome = .ok s') :
    ∀ l ∈ ls, isFold l.text = false → d <:+: l.text ∧ ¬ d <+: l.text := by
  induction ls generalizing s with
  | nil => simp
  | cons l ls ih =>
    intro l' hl'
    cases hstep : (fieldReader source d).step s l with
    | error e => rw [LineReader.run_cons_of_error hstep] at h; cases h
    | ok x =>
      obtain ⟨s₁, v⟩ := x
      rw [LineReader.outcome_run_cons_of_ok hstep] at h
      rcases List.mem_cons.1 hl' with rfl | hl'
      · intro hf
        cases hk : keyLine? d l'.text with
        | none => rw [fieldReader_step_key_none hf hk] at hstep; cases hstep
        | some kv =>
          exact (exists_isKeyLine_iff hf).1 ⟨_, _, (keyLine?_eq_some_iff hf).1 hk⟩
      · exact ih h l' hl'

theorem acceptable_of_run_eq_ok {ls : List Line} {m : Metadata} {s : Metadata × Option String}
    (h : ((fieldReader source d).run (m, none) ls).outcome = .ok s) :
    AcceptableFields d (ls.map Line.text) where
  first t ht := by
    cases ls with
    | nil => cases ht
    | cons l ls =>
      obtain rfl := Option.some.inj ht
      by_contra hf
      rw [LineReader.run_cons_of_error
        (fieldReader_step_fold_none ((Bool.not_eq_false _).mp hf) m)] at h
      cases h
  keys t ht hf := by
    obtain ⟨l, hl, rfl⟩ := List.mem_map.1 ht
    exact keys_of_run_eq_ok h l hl hf

end Run

/-! ### Files of fields -/

/-- A file cut into blocks says what its blocks say. -/
theorem parseFields_of_cut (source : Path) {delimiter : String} {lines : List String}
    {bs : List Block} {fields : List (String × String)}
    (hc : IsCut (lines.filterMap content?) bs)
    (hs : List.Forall₂ (Block.Says delimiter.toList) bs fields) :
    (parseFields source delimiter lines).outcome = .ok (.ofList fields) := by
  have hl : (contentLines lines).map Line.text = bs.flatMap Block.lines := by
    rw [map_text_contentLines]; exact hc.eq
  obtain ⟨last, hrun⟩ := outcome_run_blocks hc.wellFormed hs hl Metadata.empty none
  rw [parseFields_eq_run, Reading.outcome_map, hrun]
  rfl

theorem acceptable_of_parseFields {source : Path} {delimiter : String} {lines : List String}
    {m : Metadata} (h : (parseFields source delimiter lines).outcome = .ok m) :
    AcceptableFields delimiter.toList (lines.filterMap content?) := by
  rw [parseFields_eq_run] at h
  obtain ⟨s, hrun, -⟩ := Reading.outcome_map_eq_ok_iff.1 h
  rw [← map_text_contentLines]
  exact acceptable_of_run_eq_ok hrun

/-- **A file of fields can be read** exactly if its lines are acceptable. -/
theorem exists_parseFields_iff (source : Path) (delimiter : String) (lines : List String) :
    (∃ m, (parseFields source delimiter lines).outcome = .ok m) ↔
      AcceptableFields delimiter.toList (lines.filterMap content?) := by
  refine ⟨fun ⟨m, hm⟩ => acceptable_of_parseFields hm, fun h => ?_⟩
  obtain ⟨bs, fields, hc, hs⟩ := exists_cut h
  exact ⟨_, parseFields_of_cut source hc hs⟩

/-- **What a file of fields says.** It can be read exactly if no fold comes first and every other
content line has a delimiter that it does not start with; the empty delimiter leaves no such line. It
then gives each key the value of the last block with this key, and the keys stand in the order of their
first blocks. -/
theorem parseFields_eq_ok_iff_blocks (source : Path) (delimiter : String) (lines : List String) :
    ((∃ m, (parseFields source delimiter lines).outcome = .ok m) ↔
      AcceptableFields delimiter.toList (lines.filterMap content?)) ∧
    ((∃ m, (parseFields source "" lines).outcome = .ok m) ↔ lines.filterMap content? = []) ∧
    ∀ m, (parseFields source delimiter lines).outcome = .ok m ↔
      ∃ bs fields, IsCut (lines.filterMap content?) bs ∧
        List.Forall₂ (Block.Says delimiter.toList) bs fields ∧
        m.keys = (fields.map Prod.fst).eraseDups ∧
        ∀ k, m.get? k = ((fields.filter fun f => f.1 = k).getLast?).map Prod.snd := by
  refine ⟨exists_parseFields_iff source delimiter lines, ?_, fun m => ⟨fun hm => ?_, ?_⟩⟩
  · rw [exists_parseFields_iff, String.toList_empty, acceptableFields_nil_iff]
  · obtain ⟨bs, fields, hc, hs⟩ := exists_cut (acceptable_of_parseFields hm)
    have hm' := parseFields_of_cut source hc hs
    rw [hm] at hm'
    obtain rfl := Except.ok.inj hm'
    exact ⟨bs, fields, hc, hs, Metadata.keys_ofList fields, Metadata.get?_ofList fields⟩
  · rintro ⟨bs, fields, hc, hs, hk, hv⟩
    have hm : m = .ofList fields :=
      Metadata.ext_get? (by rw [hk, Metadata.keys_ofList])
        fun k => by rw [hv, Metadata.get?_ofList]
    rw [hm]
    exact parseFields_of_cut source hc hs

end ArchivalBag

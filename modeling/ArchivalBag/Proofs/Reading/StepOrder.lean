import ArchivalBag.Proofs.Reading.Stages

/-!
# The steps of reading a bag in any order

Each step behind the declaration reads a part of the bag and puts it in. What it reads depends on the
root and the encoding of the bag only, which no step replaces, and each step replaces a part of its own.
So the steps can be taken in any order, and once more, with the same bag as the result.

* `ReadingStep.run`: what a step does to a bag; `ReadingStep.run_eq`: it reads a part and adds it.
* `runSteps`: steps in a row; `runSteps_eq_ok_iff`: the bag that they give.
* `StepsIndependent`: the law; `readingSteps_independent`: it holds, and the bag is the one that is read
  in the usual order.
-/

namespace ArchivalBag

/-- The steps of reading a bag behind its declaration. -/
inductive ReadingStep where
  | manifests
  | metadata
  | fetchList
  deriving DecidableEq

/-- All steps, in the usual order. -/
def ReadingStep.all : List ReadingStep :=
  [.manifests, .metadata, .fetchList]

/-- An order of all steps. -/
def ReadingStep.IsOrder (order : List ReadingStep) : Prop :=
  order.Perm ReadingStep.all

/-- What a step adds to a bag. -/
inductive BagPart where
  | manifests (payload tag : List Manifest)
  | metadata (fields : Metadata)
  | fetchList (items : List FetchItem)

/-- The step that adds a part. -/
def BagPart.step : BagPart → ReadingStep
  | manifests _ _ => .manifests
  | metadata _ => .metadata
  | fetchList _ => .fetchList

/-- The bag with another part. -/
def Bag.add (b : Bag) : BagPart → Bag
  | .manifests payload tag => b.withManifests payload tag
  | .metadata fields => b.withMetadata fields
  | .fetchList items => b.withFetchItems items

/-! ### Parts of a bag -/

section Parts
variable (b : Bag) (p q : BagPart)

@[simp] theorem Bag.root_add : (b.add p).root = b.root := by
  cases p <;> rfl

@[simp] theorem Bag.version_add : (b.add p).version = b.version := by
  cases p <;> rfl

@[simp] theorem Bag.encoding_add : (b.add p).encoding = b.encoding := by
  cases p <;> rfl

theorem Bag.add_add_self : (b.add p).add p = b.add p := by
  cases p <;> rfl

variable {p q}

/-- **Parts of different steps** are added in either order. -/
theorem Bag.add_comm_of_step_ne (h : p.step ≠ q.step) : (b.add p).add q = (b.add q).add p := by
  cases p <;> cases q
  all_goals first | rfl | exact absurd rfl h

end Parts

/-- The bag with the parts of some steps. -/
def Bag.addAll (b : Bag) (part : ReadingStep → BagPart) (order : List ReadingStep) : Bag :=
  order.foldl (fun b s => b.add (part s)) b

section AddAll
variable {b : Bag} {part : ReadingStep → BagPart} {s : ReadingStep} {order order' : List ReadingStep}

theorem Bag.addAll_cons : b.addAll part (s :: order) = (b.add (part s)).addAll part order := rfl

theorem Bag.addAll_induction {P : Bag → Prop} (h₀ : P b) (h : ∀ b p, P b → P (b.add p)) :
    P (b.addAll part order) := by
  induction order generalizing b with
  | nil => exact h₀
  | cons s order ih => exact ih (h b _ h₀)

variable (h : ∀ s ∈ order, (part s).step = s)

include h

theorem Bag.add_part_comm {s' : ReadingStep} (hs : s ∈ order) (hs' : s' ∈ order) (b : Bag) :
    (b.add (part s)).add (part s') = (b.add (part s')).add (part s) := by
  by_cases hne : s = s'
  · rw [hne]
  · exact b.add_comm_of_step_ne (by rw [h s hs, h s' hs']; exact hne)

theorem Bag.addAll_perm (hp : order.Perm order') : b.addAll part order = b.addAll part order' :=
  hp.foldl_eq' (fun _ hs _ hs' b => add_part_comm h hs hs' b) b

/-- A part that was added already changes nothing. -/
theorem Bag.addAll_add (hs : s ∈ order) : (b.addAll part order).add (part s) = b.addAll part order := by
  -- its step is moved to the end of the row
  have hp : order.Perm (order.erase s ++ [s]) :=
    (List.perm_cons_erase hs).trans (List.perm_append_singleton s _).symm
  have hlast : b.addAll part order = (b.addAll part (order.erase s)).add (part s) := by
    rw [addAll_perm h hp, addAll, List.foldl_append]
    rfl
  rw [hlast, add_add_self]

end AddAll

/-! ### One step -/

variable {t : FileTree} {dir file : Path} {b b' : Bag} {e : TextEncoding} {s : ReadingStep}

namespace ReadingStep

/-- What a step does to a bag. -/
def run (t : FileTree) (dir file : Path) : ReadingStep → Bag → Reading Bag
  | manifests => addManifests t dir
  | metadata => addMetadata t dir
  | fetchList => addFetchList t file

/-- The part that a step reads for a bag with this encoding and this root. -/
def read (t : FileTree) (dir file : Path) (e : TextEncoding) (root : Path) : ReadingStep → Reading BagPart
  | manifests => do
    let files ← Reading.ofExcept (manifestFiles t dir)
    let ms ← readManifests t e root files
    pure (.manifests (ofKind .payload ms) (ofKind .tag ms))
  | metadata => .metadata <$> readMetadata t e dir
  | fetchList => .fetchList <$> readFetchList t e file

/-- A step adds a part of its own. -/
theorem step_of_read {root : Path} {p : BagPart} (h : (s.read t dir file e root).outcome = .ok p) :
    p.step = s := by
  cases s with
  | manifests =>
    obtain ⟨files, -, h⟩ := Reading.outcome_bind_eq_ok_iff.1 h
    obtain ⟨ms, -, h⟩ := Reading.outcome_bind_eq_ok_iff.1 h
    rw [← Except.ok.inj h]
    rfl
  | metadata =>
    obtain ⟨m, -, rfl⟩ := Reading.outcome_map_eq_ok_iff.1 h
    rfl
  | fetchList =>
    obtain ⟨items, -, rfl⟩ := Reading.outcome_map_eq_ok_iff.1 h
    rfl

/-- **A step reads a part and adds it.** -/
theorem run_eq (he : TextEncoding.ofLabel? b.encoding = some e) :
    s.run t dir file b = b.add <$> s.read t dir file e b.root := by
  cases s with
  | manifests =>
    rw [run, read, addManifests, declaredEncoding_eq he, pure_bind]
    simp only [map_bind, map_pure]
    rfl
  | metadata =>
    rw [run, read, addMetadata, declaredEncoding_eq he, pure_bind, ← comp_map, map_eq_pure_bind]
    rfl
  | fetchList =>
    rw [run, read, addFetchList, declaredEncoding_eq he, pure_bind, ← comp_map, map_eq_pure_bind]
    rfl

theorem run_eq_ok_iff (he : TextEncoding.ofLabel? b.encoding = some e) :
    (s.run t dir file b).outcome = .ok b' ↔
      ∃ p, (s.read t dir file e b.root).outcome = .ok p ∧ b.add p = b' := by
  rw [run_eq he, Reading.outcome_map_eq_ok_iff]

/-- Without a known encoding no step can be taken. -/
theorem outcome_run_of_unknown (he : TextEncoding.ofLabel? b.encoding = none) :
    (s.run t dir file b).outcome = .error (.unsupportedEncoding b.root b.encoding) := by
  have hd : declaredEncoding b = .fail (.unsupportedEncoding b.root b.encoding) := by
    rw [declaredEncoding, he]
  cases s with
  | manifests => rw [run, addManifests, hd, Reading.fail_bind, Reading.outcome_fail]
  | metadata => rw [run, addMetadata, hd, Reading.fail_bind, Reading.outcome_fail]
  | fetchList => rw [run, addFetchList, hd, Reading.fail_bind, Reading.outcome_fail]

end ReadingStep

/-! ### Steps in a row -/

/-- Some steps, one after the other. -/
def runSteps (t : FileTree) (dir file : Path) (order : List ReadingStep) (b : Bag) : Reading Bag :=
  order.foldlM (fun b s => s.run t dir file b) b

variable {order order' : List ReadingStep}

theorem runSteps_cons :
    runSteps t dir file (s :: order) b = s.run t dir file b >>= runSteps t dir file order :=
  List.foldlM_cons

theorem outcome_runSteps_of_read (he : TextEncoding.ofLabel? b.encoding = some e)
    {part : ReadingStep → BagPart}
    (h : ∀ s ∈ order, (s.read t dir file e b.root).outcome = .ok (part s)) :
    (runSteps t dir file order b).outcome = .ok (b.addAll part order) := by
  induction order generalizing b with
  | nil => rfl
  | cons s order ih =>
    have hs := (ReadingStep.run_eq_ok_iff he).2 ⟨_, h s List.mem_cons_self, rfl⟩
    rw [runSteps_cons, Reading.outcome_bind_of_ok hs, Bag.addAll_cons]
    -- the part that was added leaves root and encoding as they are, so the others are read as before
    refine ih (by rw [Bag.encoding_add, he]) fun s' hs' => ?_
    rw [Bag.root_add]
    exact h s' (List.mem_cons_of_mem s hs')

/-- **Every step** of a row reads what it reads for the bag in front of the row. -/
theorem exists_read_of_runSteps (he : TextEncoding.ofLabel? b.encoding = some e)
    (h : (runSteps t dir file order b).outcome = .ok b') :
    ∀ s ∈ order, ∃ p, (s.read t dir file e b.root).outcome = .ok p := by
  induction order generalizing b with
  | nil => exact fun _ hs => absurd hs List.not_mem_nil
  | cons s order ih =>
    rw [runSteps_cons] at h
    obtain ⟨b₁, hs, h⟩ := Reading.outcome_bind_eq_ok_iff.1 h
    obtain ⟨p, hp, rfl⟩ := (ReadingStep.run_eq_ok_iff he).1 hs
    intro s' hs'
    rcases List.mem_cons.1 hs' with rfl | hs'
    · exact ⟨p, hp⟩
    · rw [← b.root_add p]
      exact ih (by rw [Bag.encoding_add, he]) h s' hs'

theorem exists_part {root : Path}
    (h : ∀ s ∈ order, ∃ p, (s.read t dir file e root).outcome = .ok p) :
    ∃ part : ReadingStep → BagPart, ∀ s ∈ order, (s.read t dir file e root).outcome = .ok (part s) := by
  have : Nonempty BagPart := ⟨.fetchList []⟩
  choose! part hpart using h
  exact ⟨part, hpart⟩

/-- **The bag that some steps give** has the parts that they read for the bag in front of them. -/
theorem runSteps_eq_ok_iff (he : TextEncoding.ofLabel? b.encoding = some e) :
    (runSteps t dir file order b).outcome = .ok b' ↔
      ∃ part : ReadingStep → BagPart,
        (∀ s ∈ order, (s.read t dir file e b.root).outcome = .ok (part s)) ∧
          b.addAll part order = b' := by
  refine ⟨fun h => ?_, fun ⟨part, hpart, hb⟩ => by rw [outcome_runSteps_of_read he hpart, hb]⟩
  obtain ⟨part, hpart⟩ := exists_part (exists_read_of_runSteps he h)
  refine ⟨part, hpart, ?_⟩
  rw [outcome_runSteps_of_read he hpart] at h
  exact Except.ok.inj h

theorem exists_ofLabel?_of_run (h : (s.run t dir file b).outcome = .ok b') :
    ∃ e, TextEncoding.ofLabel? b.encoding = some e := by
  cases he : TextEncoding.ofLabel? b.encoding with
  | some e => exact ⟨e, rfl⟩
  | none =>
    rw [ReadingStep.outcome_run_of_unknown he] at h
    cases h

/-- **All steps can be taken in a row** exactly if each of them can be taken alone. -/
theorem exists_runSteps_iff :
    (∃ b', (runSteps t dir file order b).outcome = .ok b') ↔
      ∀ s ∈ order, ∃ b', (s.run t dir file b).outcome = .ok b' := by
  cases order with
  | nil => exact ⟨fun _ _ hs => absurd hs List.not_mem_nil, fun _ => ⟨b, rfl⟩⟩
  | cons s order =>
    constructor
    · rintro ⟨b', h⟩
      have hs := h
      rw [runSteps_cons] at hs
      obtain ⟨b₁, hs, -⟩ := Reading.outcome_bind_eq_ok_iff.1 hs
      obtain ⟨e, he⟩ := exists_ofLabel?_of_run hs
      intro s' hs'
      obtain ⟨p, hp⟩ := exists_read_of_runSteps he h s' hs'
      exact ⟨_, (ReadingStep.run_eq_ok_iff he).2 ⟨p, hp, rfl⟩⟩
    · intro h
      obtain ⟨b₁, hs⟩ := h s List.mem_cons_self
      obtain ⟨e, he⟩ := exists_ofLabel?_of_run hs
      have hread : ∀ s' ∈ s :: order, ∃ p, (s'.read t dir file e b.root).outcome = .ok p := by
        intro s' hs'
        obtain ⟨b', hb'⟩ := h s' hs'
        obtain ⟨p, hp, -⟩ := (ReadingStep.run_eq_ok_iff he).1 hb'
        exact ⟨p, hp⟩
      obtain ⟨part, hpart⟩ := exists_part hread
      exact ⟨_, outcome_runSteps_of_read he hpart⟩

theorem exists_ofLabel?_of_runSteps (hs : s ∈ order)
    (h : (runSteps t dir file order b).outcome = .ok b') :
    ∃ e, TextEncoding.ofLabel? b.encoding = some e := by
  obtain ⟨b₁, hb₁⟩ := exists_runSteps_iff.1 ⟨b', h⟩ s hs
  exact exists_ofLabel?_of_run hb₁

/-! ### The law -/

theorem ReadingStep.IsOrder.mem (h : IsOrder order) (s : ReadingStep) : s ∈ order := by
  rw [List.Perm.mem_iff h]
  cases s <;> decide

/-- **The steps are independent.** -/
structure StepsIndependent (t : FileTree) (dir file : Path) : Prop where
  /-- Any order gives the same bag, if one of them gives a bag. -/
  orders : ∀ (b b' : Bag) (order order' : List ReadingStep), ReadingStep.IsOrder order →
    ReadingStep.IsOrder order' → (runSteps t dir file order b).outcome = .ok b' →
      (runSteps t dir file order' b).outcome = .ok b'
  /-- Any order fails exactly if one of the steps fails alone. -/
  fails_iff : ∀ (b : Bag) (order : List ReadingStep), ReadingStep.IsOrder order →
    ((∃ x, (runSteps t dir file order b).outcome = .error x) ↔
      ∃ s x, (ReadingStep.run t dir file s b).outcome = .error x)
  /-- Root, version and encoding stay, and any step that is taken again changes nothing. -/
  keeps : ∀ (b b' : Bag) (order : List ReadingStep), ReadingStep.IsOrder order →
    (runSteps t dir file order b).outcome = .ok b' →
      b'.root = b.root ∧ b'.version = b.version ∧ b'.encoding = b.encoding ∧
        ∀ s, (ReadingStep.run t dir file s b').outcome = .ok b'
  /-- For all bags with the same root and encoding, a step reads the same part. -/
  parts : ∀ (s : ReadingStep) (root : Path) (e : TextEncoding), ∃ x : Reading BagPart,
    (∀ p, x.outcome = .ok p → p.step = s) ∧
      ∀ b : Bag, b.root = root → TextEncoding.ofLabel? b.encoding = some e →
        s.run t dir file b = b.add <$> x

theorem runSteps_perm (hs : s ∈ order) (hp : order.Perm order')
    (h : (runSteps t dir file order b).outcome = .ok b') :
    (runSteps t dir file order' b).outcome = .ok b' := by
  obtain ⟨e, he⟩ := exists_ofLabel?_of_runSteps hs h
  obtain ⟨part, hpart, rfl⟩ := (runSteps_eq_ok_iff he).1 h
  have hstep : ∀ s ∈ order, (part s).step = s := fun s hs => ReadingStep.step_of_read (hpart s hs)
  exact (runSteps_eq_ok_iff he).2
    ⟨part, fun s hs => hpart s (hp.mem_iff.2 hs), (Bag.addAll_perm hstep hp).symm⟩

theorem run_of_runSteps (hs : s ∈ order) (h : (runSteps t dir file order b).outcome = .ok b') :
    b'.root = b.root ∧ b'.version = b.version ∧ b'.encoding = b.encoding ∧
      (s.run t dir file b').outcome = .ok b' := by
  obtain ⟨e, he⟩ := exists_ofLabel?_of_runSteps hs h
  obtain ⟨part, hpart, rfl⟩ := (runSteps_eq_ok_iff he).1 h
  have hstep : ∀ s ∈ order, (part s).step = s := fun s hs => ReadingStep.step_of_read (hpart s hs)
  obtain ⟨hroot, hversion, hencoding⟩ : (b.addAll part order).root = b.root ∧
      (b.addAll part order).version = b.version ∧ (b.addAll part order).encoding = b.encoding :=
    Bag.addAll_induction (P := fun a => a.root = b.root ∧ a.version = b.version ∧ a.encoding = b.encoding)
      ⟨rfl, rfl, rfl⟩ fun a p ha => by
        rwa [Bag.root_add, Bag.version_add, Bag.encoding_add]
  refine ⟨hroot, hversion, hencoding, ?_⟩
  rw [ReadingStep.run_eq_ok_iff (by rw [hencoding, he]), hroot]
  exact ⟨part s, hpart s hs, Bag.addAll_add hstep hs⟩

theorem stepsIndependent (t : FileTree) (dir file : Path) : StepsIndependent t dir file where
  orders b b' order order' ho ho' h :=
    runSteps_perm (ho.mem .manifests) (ho.trans ho'.symm) h
  fails_iff b order ho := by
    rw [Reading.exists_error_iff, exists_runSteps_iff]
    simp only [Reading.exists_error_iff, ho.mem, true_implies, not_forall]
  keeps b b' order ho h := by
    have hs := fun s => run_of_runSteps (ho.mem s) h
    obtain ⟨hroot, hversion, hencoding, -⟩ := hs .manifests
    exact ⟨hroot, hversion, hencoding, fun s => (hs s).2.2.2⟩
  parts s root e := by
    refine ⟨s.read t dir file e root, fun p => ReadingStep.step_of_read, ?_⟩
    rintro b rfl he
    exact ReadingStep.run_eq he

/-- **The usual order** gives the bag that is read, if there is a fetch list. -/
theorem runSteps_of_assemble {root : Path} (hf : t.contains (dir.join fetchFile) = true)
    (h : (assemble t root dir).outcome = .ok b) :
    ∃ b₁, (addDeclaration t (dir.join declarationFile) (.new root)).outcome = .ok b₁ ∧
      (runSteps t dir (dir.join fetchFile) ReadingStep.all b₁).outcome = .ok b := by
  obtain ⟨-, b₁, h₁, b₂, h₂, b₃, h₃, h₄⟩ := assemble_eq_ok_iff.1 h
  refine ⟨b₁, h₁, ?_⟩
  have hfetch : (addFetchList t (dir.join fetchFile) b₃).outcome = .ok b := by
    unfold addFetchListIn at h₄
    rwa [if_pos hf] at h₄
  rw [ReadingStep.all, runSteps_cons, ReadingStep.run, Reading.outcome_bind_of_ok h₂, runSteps_cons,
    ReadingStep.run, Reading.outcome_bind_of_ok h₃, runSteps_cons, ReadingStep.run,
    Reading.outcome_bind_of_ok hfetch]
  rfl

/-- **The steps of reading a bag are independent**, for every tree, control directory, file of a fetch
list and bag; and if a bag with a fetch list can be read, then the steps give the same bag in any order
behind the declaration. -/
theorem readingSteps_independent (t : FileTree) :
    (∀ dir file, StepsIndependent t dir file) ∧
      ∀ (root : Path) (b : Bag), (readBag t root).outcome = .ok b →
        ∃ r, root.absolute? = some r ∧
          (t.contains ((controlDirectory t r).join fetchFile) = true →
            ∀ order : List ReadingStep, ReadingStep.IsOrder order →
              (addDeclaration t ((controlDirectory t r).join declarationFile) (.new r) >>=
                runSteps t (controlDirectory t r) ((controlDirectory t r).join fetchFile)
                  order).outcome = .ok b) := by
  refine ⟨stepsIndependent t, fun root b h => ?_⟩
  cases hr : root.absolute? with
  | none =>
    rw [readBag, outcome_reportFailure, hr] at h
    cases h
  | some r =>
    refine ⟨r, rfl, fun hf order ho => ?_⟩
    rw [outcome_readBag_of_absolute? hr] at h
    obtain ⟨b₁, h₁, hb⟩ := runSteps_of_assemble hf h
    rw [Reading.outcome_bind_of_ok h₁]
    exact (stepsIndependent t _ _).orders _ _ _ _ (List.Perm.refl _) ho hb

/-- A bag with a fetch list. -/
def fetchingTree : FileTree :=
  .directory [("bag", .directory
    [("bagit.txt", .file (Encoding.Utf8.encode
        "BagIt-Version: 1.0\nTag-File-Character-Encoding: UTF-8\n")),
      ("manifest-md5.txt", .file (Encoding.Utf8.encode "abc data/x\n")),
      ("bag-info.txt", .file (Encoding.Utf8.encode "Contact: me\n")),
      ("fetch.txt", .file (Encoding.Utf8.encode "urn:isbn:12 - data/x\n"))])]

/-- It is read by the steps in reverse order. -/
theorem readingSteps_independent_fetching :
    ∃ b, (readBag fetchingTree ⟨"/bag"⟩).outcome = .ok b ∧
      fetchingTree.contains ⟨"/bag/fetch.txt"⟩ = true ∧
      ReadingStep.IsOrder [.fetchList, .metadata, .manifests] ∧
      (addDeclaration fetchingTree ⟨"/bag/bagit.txt"⟩ (.new ⟨"/bag"⟩) >>=
        runSteps fetchingTree ⟨"/bag"⟩ ⟨"/bag/fetch.txt"⟩ [.fetchList, .metadata, .manifests]).outcome =
          .ok b := by
  have hr : Path.absolute? ⟨"/bag"⟩ = some ⟨"/bag"⟩ := rfl
  have hfiles : manifestFiles fetchingTree ⟨"/bag"⟩ = .ok [⟨"/bag/manifest-md5.txt"⟩] :=
    congrArg Except.ok (List.mergeSort_singleton _)
  have hdecl : (addDeclaration fetchingTree ⟨"/bag/bagit.txt"⟩ (.new ⟨"/bag"⟩)).outcome =
      .ok ((Bag.new ⟨"/bag"⟩).withDeclaration ⟨1, 0⟩ "UTF-8") := rfl
  obtain ⟨b₂, hmanifests, he₂⟩ : ∃ b, (addManifests fetchingTree ⟨"/bag"⟩
      ((Bag.new ⟨"/bag"⟩).withDeclaration ⟨1, 0⟩ "UTF-8")).outcome = .ok b ∧
        TextEncoding.ofLabel? b.encoding = some .utf8 :=
    ⟨_, (addManifests_eq_ok_iff (e := .utf8) rfl).2 ⟨_, hfiles, _, rfl, rfl⟩, rfl⟩
  obtain ⟨b₃, hmetadata, he₃⟩ : ∃ b, (addMetadata fetchingTree ⟨"/bag"⟩ b₂).outcome = .ok b ∧
      TextEncoding.ofLabel? b.encoding = some .utf8 :=
    ⟨_, (addMetadata_eq_ok_iff he₂).2 ⟨_, rfl, rfl⟩, he₂⟩
  obtain ⟨b, hfetch⟩ : ∃ b, (addFetchListIn fetchingTree ⟨"/bag"⟩ b₃).outcome = .ok b :=
    ⟨_, (addFetchListIn_eq_ok_iff he₃).2 (.inr ⟨rfl, _, rfl, rfl⟩)⟩
  have hb : (readBag fetchingTree ⟨"/bag"⟩).outcome = .ok b := by
    rw [outcome_readBag_of_absolute? hr, assemble_eq_ok_iff]
    exact ⟨rfl, _, hdecl, _, hmanifests, _, hmetadata, hfetch⟩
  have horder : ReadingStep.IsOrder [.fetchList, .metadata, .manifests] :=
    List.reverse_perm ReadingStep.all
  obtain ⟨r, hr', hsteps⟩ := (readingSteps_independent fetchingTree).2 _ _ hb
  obtain rfl := Option.some.inj hr'
  exact ⟨b, hb, rfl, horder, hsteps rfl _ horder⟩

end ArchivalBag

import ArchivalBag.Log.Logger
import ArchivalBag.Proofs.FileTree.Storing

/-!
# Asking for loggers

A process can ask for a logger any number of times, each time with a configuration of its own. The place
to log to is opened first, and the logger is installed then; the one may be impossible, and the other
fails if there is a logger already. So a request that is refused because of an earlier one has opened its
place before, and a file there has been emptied.

* `Opens`, `opened`: when the place to log to can be opened, and the files after that.
* `install_cases`: everything a request can do.
* `installAll`: a run of requests; `logger_installAll_eq_none_iff`: what it preserves.
* `getElem?_installAll_eq_ok_iff`, `pairwise_installAll`: the request that is granted, and that there is
  no other.
* `find_install_iff`: the refused requests that leave all files as they were.
* `find_installAll_replicate`: repeating a request does.
-/

namespace ArchivalBag.Log.Session

/-! ### A request -/

/-- The place to log to can be opened: it is the standard output or a file that can be written. -/
def Opens (t : FileTree) (c : Config) : Prop :=
  ∀ p, c.logFile = some p → t.IsWritable p

theorem opens_iff {t : FileTree} {c : Config} {p : Path} (hp : c.logFile = some p) :
    Opens t c ↔ t.IsWritable p := by
  refine ⟨fun h => h p hp, fun hw p' hp' => ?_⟩
  rw [hp] at hp'
  rwa [← Option.some.inj hp']

/-- The files after the place to log to was opened, which leaves an empty file there. -/
def opened (t : FileTree) (c : Config) : FileTree :=
  (c.logFile.map fun p => t.write p []).getD t

/-- The logger a configuration asks for. -/
def loggerOf (c : Config) (asked : Option String) : Logger :=
  ⟨Filter.choose c asked, (c.logFile.map Sink.file).getD .standardOutput⟩

theorem install_of_opens {s : Session} {c : Config} (h : Opens s.files c) (asked : Option String) :
    s.install c asked = ({ s with files := opened s.files c }).installLogger (loggerOf c asked) := by
  unfold install opened loggerOf
  unfold Opens at h
  cases hp : c.logFile with
  | none => rfl
  | some p =>
    dsimp only
    rw [(h p hp).store_eq]
    rfl

theorem install_of_not_opens {s : Session} {c : Config} (h : ¬ Opens s.files c)
    (asked : Option String) : ∃ f, s.install c asked = (.error (.noLogFile f), s) := by
  obtain ⟨p, hp, hw⟩ : ∃ p, c.logFile = some p ∧ ¬ s.files.IsWritable p := by
    unfold Opens at h
    push Not at h
    exact h
  rw [install, hp]
  dsimp only
  cases hs : s.files.store p [] with
  | error f => exact ⟨f, rfl⟩
  | ok t => exact absurd (FileTree.store_eq_ok_iff.1 hs).1 hw

/-- **Everything a request can do.** It is refused since its place cannot be opened, and nothing has
changed; or it is granted; or there is a logger already, and its place has been opened for nothing. -/
theorem install_cases (s : Session) (c : Config) (asked : Option String) :
    (¬ Opens s.files c ∧ ∃ f, s.install c asked = (.error (.noLogFile f), s)) ∨
    (Opens s.files c ∧ s.logger = none ∧
      s.install c asked = (.ok (), ⟨opened s.files c, some (loggerOf c asked)⟩)) ∨
    (Opens s.files c ∧ s.logger ≠ none ∧
      s.install c asked = (.error .loggerInstalled, ⟨opened s.files c, s.logger⟩)) := by
  by_cases h : Opens s.files c
  · right
    rw [install_of_opens h, installLogger]
    dsimp only
    cases hl : s.logger with
    | none => exact .inl ⟨h, rfl, rfl⟩
    | some l => exact .inr ⟨h, Option.some_ne_none l, rfl⟩
  · exact .inl ⟨h, install_of_not_opens h asked⟩

/-- A request is granted to a process without a logger whose place to log to can be opened. -/
theorem install_eq_ok_iff {s : Session} {c : Config} {asked : Option String} :
    (s.install c asked).1 = .ok () ↔ s.logger = none ∧ Opens s.files c := by
  rcases install_cases s c asked with ⟨ho, f, h⟩ | ⟨ho, hl, h⟩ | ⟨ho, hl, h⟩
  · rw [h]
    exact ⟨fun he => (nomatch he), fun hs => absurd hs.2 ho⟩
  · rw [h]
    exact ⟨fun _ => ⟨hl, ho⟩, fun _ => rfl⟩
  · rw [h]
    exact ⟨fun he => (nomatch he), fun hs => absurd hs.1 hl⟩

theorem logger_install_eq_none_iff {s : Session} {c : Config} {asked : Option String} :
    (s.install c asked).2.logger = none ↔ s.logger = none ∧ (s.install c asked).1 ≠ .ok () := by
  rcases install_cases s c asked with ⟨ho, f, h⟩ | ⟨ho, hl, h⟩ | ⟨ho, hl, h⟩
  · rw [h]
    exact ⟨fun hs => ⟨hs, fun he => (nomatch he)⟩, And.left⟩
  · rw [h]
    exact ⟨fun hs => (nomatch hs), fun hs => absurd rfl hs.2⟩
  · rw [h]
    exact ⟨fun hs => absurd hs hl, fun hs => absurd hs.1 hl⟩

/-! ### A run of requests -/

/-- A request: a configuration, and the filter the environment asks for. -/
structure Request where
  config : Config
  asked : Option String

/-- The answers to some requests in a row, and the session after them. -/
def installAll (s : Session) : List Request → List (Except ConfigFault Unit) × Session
  | [] => ([], s)
  | r :: rs =>
    let (a, s) := s.install r.config r.asked
    let (as, s) := s.installAll rs
    (a :: as, s)

theorem installAll_cons (s : Session) (r : Request) (rs : List Request) :
    s.installAll (r :: rs) = ((s.install r.config r.asked).1 ::
      ((s.install r.config r.asked).2.installAll rs).1,
      ((s.install r.config r.asked).2.installAll rs).2) :=
  rfl

theorem installAll_append (s : Session) (rs rs' : List Request) :
    s.installAll (rs ++ rs') = ((s.installAll rs).1 ++ ((s.installAll rs).2.installAll rs').1,
      ((s.installAll rs).2.installAll rs').2) := by
  induction rs generalizing s with
  | nil => rfl
  | cons r rs ih => rw [List.cons_append, installAll_cons, ih, installAll_cons, List.cons_append]

theorem length_installAll (s : Session) (rs : List Request) :
    (s.installAll rs).1.length = rs.length := by
  induction rs generalizing s with
  | nil => rfl
  | cons r rs ih => exact congrArg (· + 1) (ih (s.install r.config r.asked).2)

/-- A request in a run gets the answer that it gets from the session before it. -/
theorem getElem?_installAll (s : Session) (before after : List Request) (r : Request) :
    (s.installAll (before ++ r :: after)).1[before.length]? =
      some ((s.installAll before).2.install r.config r.asked).1 := by
  have hlength := length_installAll s before
  rw [installAll_append, ← hlength, List.getElem?_append_right (Nat.le_refl _), Nat.sub_self]
  rfl

/-- **There is no logger after a run** exactly if there was none and no request was granted. -/
theorem logger_installAll_eq_none_iff (s : Session) (rs : List Request) :
    (s.installAll rs).2.logger = none ↔ s.logger = none ∧ .ok () ∉ (s.installAll rs).1 := by
  induction rs generalizing s with
  | nil => exact ⟨fun h => ⟨h, List.not_mem_nil⟩, And.left⟩
  | cons r rs ih =>
    rw [installAll_cons]
    dsimp only
    rw [ih, logger_install_eq_none_iff, List.mem_cons, not_or, and_assoc, ne_comm]

/-- **The request that is granted** in a run is the first one whose place to log to can be opened: there
was no logger at the start, and none of the requests before was granted. -/
theorem getElem?_installAll_eq_ok_iff (s : Session) (before after : List Request) (r : Request) :
    (s.installAll (before ++ r :: after)).1[before.length]? = some (.ok ()) ↔
      s.logger = none ∧ .ok () ∉ (s.installAll before).1 ∧
        Opens (s.installAll before).2.files r.config := by
  rw [getElem?_installAll, Option.some_inj, install_eq_ok_iff, logger_installAll_eq_none_iff, and_assoc]

/-- With a logger, no request is granted any more. -/
theorem ok_notMem_installAll {s : Session} (h : s.logger ≠ none) (rs : List Request) :
    .ok () ∉ (s.installAll rs).1 := by
  induction rs generalizing s with
  | nil => exact List.not_mem_nil
  | cons r rs ih =>
    rw [installAll_cons, List.mem_cons, not_or]
    refine ⟨fun ha => h (install_eq_ok_iff.1 ha.symm).1, ih fun hs => h ?_⟩
    exact (logger_install_eq_none_iff.1 hs).1

/-- **At most one request is granted** in a run. -/
theorem pairwise_installAll (s : Session) (rs : List Request) :
    (s.installAll rs).1.Pairwise fun a b => a = .ok () → b ≠ .ok () := by
  induction rs generalizing s with
  | nil => exact .nil
  | cons r rs ih =>
    rw [installAll_cons]
    refine .cons (fun b hb ha => ?_) (ih _)
    rintro rfl
    exact ok_notMem_installAll (fun hs => (logger_install_eq_none_iff.1 hs).2 ha) rs hb

/-! ### The files -/

theorem find_opened_logFile {t : FileTree} {c : Config} {p : Path} (h : Opens t c)
    (hp : c.logFile = some p) : (opened t c).find p = .file [] := by
  rw [opened, hp]
  exact FileTree.read_eq_ok_iff.1 ((h p hp).read_write [])

theorem find_opened_of_ne {t : FileTree} {c : Config} {q : Path} (h : Opens t c)
    (hq : ∀ p, c.logFile = some p → FileTree.names q ≠ FileTree.names p) :
    (opened t c).find q = t.find q := by
  unfold opened
  cases hp : c.logFile with
  | none => rfl
  | some p => exact (h p hp).find_write_of_ne [] (hq p hp)

/-- Opening a place leaves all files as they were exactly if a file there was empty before. -/
theorem find_opened_iff {t : FileTree} {c : Config} (h : Opens t c) :
    (∀ q, (opened t c).find q = t.find q) ↔ ∀ p, c.logFile = some p → t.find p = .file [] := by
  constructor
  · intro hall p hp
    rw [← hall p, find_opened_logFile h hp]
  · intro hempty
    unfold opened
    cases hp : c.logFile with
    | none => exact fun _ => rfl
    | some p => exact (h p hp).find_write_of_find (hempty p hp)

/-- Only the file to log to can have changed. -/
theorem find_install_of_ne (s : Session) (c : Config) (asked : Option String) {q : Path}
    (hq : ∀ p, c.logFile = some p → FileTree.names q ≠ FileTree.names p) :
    (s.install c asked).2.files.find q = s.files.find q := by
  rcases install_cases s c asked with ⟨-, f, h⟩ | ⟨ho, -, h⟩ | ⟨ho, -, h⟩
  · rw [h]
  · rw [h]
    exact find_opened_of_ne ho hq
  · rw [h]
    exact find_opened_of_ne ho hq

/-- **A request leaves all files as they were** exactly if a file to log to that can be written was empty
before. A request that is refused since there is a logger is no exception. -/
theorem find_install_iff (s : Session) (c : Config) (asked : Option String) :
    (∀ q, (s.install c asked).2.files.find q = s.files.find q) ↔
      ∀ p, c.logFile = some p → s.files.IsWritable p → s.files.find p = .file [] := by
  have hopened (h : Opens s.files c) : (∀ q, (opened s.files c).find q = s.files.find q) ↔
      ∀ p, c.logFile = some p → s.files.IsWritable p → s.files.find p = .file [] := by
    rw [find_opened_iff h]
    exact forall₂_congr fun p hp => ⟨fun hempty _ => hempty, fun hempty => hempty (h p hp)⟩
  rcases install_cases s c asked with ⟨ho, f, h⟩ | ⟨ho, -, h⟩ | ⟨ho, -, h⟩
  · rw [h]
    exact ⟨fun _ p hp hw => absurd ((opens_iff hp).2 hw) ho, fun _ _ => rfl⟩
  · rw [h]
    exact hopened ho
  · rw [h]
    exact hopened ho

/-- A refused request has emptied a file with records in it: the first request was for the standard
output, the second one for the file. -/
theorem exists_refused_install_emptying :
    ∃ (t : FileTree) (p : Path) (stdout toFile : Request),
      t.read p = .ok [0x7B, 0x7D] ∧
        (installAll ⟨t, none⟩ [stdout]).2.files.read p = .ok [0x7B, 0x7D] ∧
        (installAll ⟨t, none⟩ [stdout, toFile]).1 = [.ok (), .error .loggerInstalled] ∧
        (installAll ⟨t, none⟩ [stdout, toFile]).2.files.read p = .ok [] :=
  ⟨.directory [("l", .file [0x7B, 0x7D])], ⟨"/l"⟩, ⟨.default, none⟩,
    ⟨{ Config.default with logFile := some ⟨"/l"⟩ }, none⟩,
    by decide, by decide, by decide, by decide⟩

/-! ### Repeated requests -/

/-- After a request, the file to log to is empty if it can be written. -/
theorem find_logFile_install (s : Session) (c : Config) (asked : Option String) :
    ∀ p, c.logFile = some p → (s.install c asked).2.files.IsWritable p →
      (s.install c asked).2.files.find p = .file [] := by
  intro p hp
  rcases install_cases s c asked with ⟨ho, f, h⟩ | ⟨ho, -, h⟩ | ⟨ho, -, h⟩
  · rw [h]
    exact fun hw => absurd ((opens_iff hp).2 hw) ho
  · rw [h]
    exact fun _ => find_opened_logFile ho hp
  · rw [h]
    exact fun _ => find_opened_logFile ho hp

/-- **A request that is repeated** changes no file after the first time. -/
theorem find_installAll_replicate (s : Session) (r : Request) (n : Nat) (q : Path) :
    (s.installAll (List.replicate (n + 1) r)).2.files.find q =
      (s.install r.config r.asked).2.files.find q := by
  induction n generalizing s with
  | zero => rfl
  | succ n ih =>
    rw [List.replicate_succ, installAll_cons]
    dsimp only
    rw [ih]
    exact (find_install_iff _ _ _).2 (find_logFile_install s r.config r.asked) q

end ArchivalBag.Log.Session

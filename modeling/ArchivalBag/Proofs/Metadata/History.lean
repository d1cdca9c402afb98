import ArchivalBag.Proofs.Json.BagForm

/-!
# Metadata and the writes behind them

Metadata start out empty, or with pairs that are collected or read from JSON, and are then written to
with `insert` and `appendLine` any number of times. What they amount to can be read off the writes: the
keys stand in the order in which they were first inserted, and a key has the value of its last insert
with the lines that were appended since.

* `Metadata.write`, `Metadata.writeAll`: one write and a run of writes, with their answers.
* `HasValue`: the value that a history of writes gives to a key.
* `Follows`: the invariant; `Follows.write`, `Follows.writeAll`: what a write and a run preserve.
* `IsMapOf`: everything metadata answer, said in terms of the history.
* `IsWrite`: everything a single write does.
* `writeAll_faithful`: both hold from every start and all along the way.
-/

namespace ArchivalBag.Metadata

/-! ### Writes -/

/-- A write to metadata. -/
inductive Write where
  | insert (key value : String)
  | appendLine (key line : String)
  deriving DecidableEq

/-- The key that is written to. -/
def Write.key : Write → String
  | insert k _ => k
  | appendLine k _ => k

/-- The answer to a write: the value there was before, or whether there was one. -/
inductive Answer where
  | previous (value : Option String)
  | found (known : Bool)
  deriving DecidableEq

/-- The answer to a write, and the metadata after it. -/
def write (m : Metadata) : Write → Answer × Metadata
  | .insert k v => (m.getThenInsert k v).map .previous id
  | .appendLine k line => (m.containsThenAppendLine k line).map .found id

/-- The answers to some writes in a row, and the metadata after them. -/
def writeAll (m : Metadata) : List Write → List Answer × Metadata
  | [] => ([], m)
  | w :: ws =>
    let (a, m) := m.write w
    let (as, m) := m.writeAll ws
    (a :: as, m)

theorem write_insert (m : Metadata) (k v : String) :
    m.write (.insert k v) = (.previous (m.get? k), m.insert k v) := by
  rw [write, getThenInsert_eq]
  rfl

theorem write_appendLine (m : Metadata) (k line : String) :
    m.write (.appendLine k line) = (.found (m.contains k), m.appendLine k line) := by
  rw [write, containsThenAppendLine_eq]
  rfl

theorem writeAll_append (m : Metadata) (ws ws' : List Write) :
    m.writeAll (ws ++ ws') = ((m.writeAll ws).1 ++ ((m.writeAll ws).2.writeAll ws').1,
      ((m.writeAll ws).2.writeAll ws').2) := by
  induction ws generalizing m with
  | nil => rfl
  | cons w ws ih =>
    show ((m.write w).1 :: ((m.write w).2.writeAll (ws ++ ws')).1,
      ((m.write w).2.writeAll (ws ++ ws')).2) = _
    rw [ih]
    rfl

theorem length_answers (m : Metadata) (ws : List Write) : (m.writeAll ws).1.length = ws.length := by
  induction ws generalizing m with
  | nil => rfl
  | cons w ws ih => exact congrArg (· + 1) (ih (m.write w).2)

/-- A write in a run gets the answer that it gets from the metadata before it. -/
theorem getElem?_answers (m : Metadata) (before after : List Write) (w : Write) :
    (m.writeAll (before ++ w :: after)).1[before.length]? =
      some ((m.writeAll before).2.write w).1 := by
  have hlength := length_answers m before
  rw [writeAll_append, ← hlength, List.getElem?_append_right (Nat.le_refl _), Nat.sub_self]
  rfl

theorem writeAll_concat (m : Metadata) (before : List Write) (w : Write) :
    (m.writeAll (before ++ [w])).2 = ((m.writeAll before).2.write w).2 := by
  rw [writeAll_append]
  rfl

/-! ### Histories -/

/-- The keys that were inserted, in order. -/
def insertedKeys (history : List Write) : List String :=
  history.filterMap fun
    | .insert k _ => some k
    | .appendLine _ _ => none

/-- The lines that were appended to `k`, in order. -/
def appendedLines (k : String) (history : List Write) : List String :=
  history.filterMap fun
    | .insert _ _ => none
    | .appendLine k' line => if k' = k then some line else none

/-- The lines, each behind a line feed. -/
def onNewLines (lines : List String) : String :=
  lines.foldr (fun line s => "\n" ++ line ++ s) ""

/-- The value that a history gives to `k`: that of the last insert of `k`, followed by the lines that
were appended to `k` since. -/
def HasValue (history : List Write) (k x : String) : Prop :=
  ∃ before v after, history = before ++ .insert k v :: after ∧ k ∉ insertedKeys after ∧
    x = v ++ onNewLines (appendedLines k after)

theorem insertedKeys_append (h h' : List Write) :
    insertedKeys (h ++ h') = insertedKeys h ++ insertedKeys h' :=
  List.filterMap_append

theorem appendedLines_append (k : String) (h h' : List Write) :
    appendedLines k (h ++ h') = appendedLines k h ++ appendedLines k h' :=
  List.filterMap_append

theorem onNewLines_append (lines lines' : List String) :
    onNewLines (lines ++ lines') = onNewLines lines ++ onNewLines lines' := by
  induction lines with
  | nil => simp [onNewLines]
  | cons l lines ih =>
    show "\n" ++ l ++ onNewLines (lines ++ lines') = "\n" ++ l ++ onNewLines lines ++ onNewLines lines'
    simp only [ih, String.append_assoc]

/-- One more write either is the insert that counts or comes after it. -/
theorem hasValue_concat_iff {history : List Write} {w : Write} {k x : String} :
    HasValue (history ++ [w]) k x ↔ w = .insert k x ∨
      ∃ y, HasValue history k y ∧ k ∉ insertedKeys [w] ∧ x = y ++ onNewLines (appendedLines k [w]) := by
  constructor
  · rintro ⟨before, v, after, hsplit, hafter, rfl⟩
    rcases List.eq_nil_or_concat' after with rfl | ⟨after, w', rfl⟩
    · obtain ⟨-, hw⟩ := List.append_inj' hsplit rfl
      left
      rw [List.singleton_inj.1 hw]
      simp [appendedLines, onNewLines]
    · rw [← List.cons_append, ← List.append_assoc] at hsplit
      obtain ⟨hhistory, hw⟩ := List.append_inj' hsplit rfl
      rw [← List.singleton_inj.1 hw, insertedKeys_append, List.mem_append, not_or] at hafter
      right
      refine ⟨_, ⟨before, v, after, hhistory, hafter.1, rfl⟩, hafter.2, ?_⟩
      rw [appendedLines_append, onNewLines_append, List.singleton_inj.1 hw, String.append_assoc]
  · rintro (rfl | ⟨y, ⟨before, v, after, rfl, hafter, rfl⟩, hw, rfl⟩)
    · exact ⟨history, x, [], rfl, List.not_mem_nil, by simp [appendedLines, onNewLines]⟩
    · refine ⟨before, v, after ++ [w], by simp, ?_, ?_⟩
      · rw [insertedKeys_append, List.mem_append]
        exact not_or.2 ⟨hafter, hw⟩
      · rw [appendedLines_append, onNewLines_append, String.append_assoc]

theorem hasValue_concat_insert {history : List Write} {k k' v x : String} :
    HasValue (history ++ [.insert k' v]) k x ↔ if k' = k then v = x else HasValue history k x := by
  rw [hasValue_concat_iff]
  by_cases h : k' = k
  · simp [h, insertedKeys]
  · simp [h, Ne.symm h, insertedKeys, appendedLines, onNewLines]

theorem hasValue_concat_appendLine {history : List Write} {k k' line x : String} :
    HasValue (history ++ [.appendLine k' line]) k x ↔
      if k' = k then ∃ y, HasValue history k y ∧ y ++ "\n" ++ line = x else HasValue history k x := by
  rw [hasValue_concat_iff]
  by_cases h : k' = k
  · simp [h, insertedKeys, appendedLines, onNewLines, String.append_assoc, eq_comm]
  · simp [h, insertedKeys, appendedLines, onNewLines]

/-! ### The invariant -/

/-- The keys and the values are those of the history. -/
structure Follows (m : Metadata) (history : List Write) : Prop where
  keys : m.keys = (insertedKeys history).eraseDups
  value : ∀ k x, m.get? k = some x ↔ HasValue history k x

namespace Follows

theorem empty : Follows .empty [] where
  keys := rfl
  value k x := by
    constructor
    · intro h
      cases h
    · rintro ⟨before, v, after, h, -⟩
      exact absurd h.symm (by simp)

theorem insert {m : Metadata} {history : List Write} (h : m.Follows history) (k v : String) :
    (m.insert k v).Follows (history ++ [.insert k v]) where
  keys := by
    have hkeys : insertedKeys (history ++ [.insert k v]) = insertedKeys history ++ [k] :=
      insertedKeys_append history _
    rw [keys_insert, h.keys, hkeys, eraseDups_append_singleton]
    simp only [List.mem_eraseDups]
  value k' x := by
    rw [get?_insert, hasValue_concat_insert]
    split
    · rw [Option.some_inj]
    · exact h.value k' x

theorem appendLine {m : Metadata} {history : List Write} (h : m.Follows history) (k line : String) :
    (m.appendLine k line).Follows (history ++ [.appendLine k line]) where
  keys := by
    have hkeys : insertedKeys (history ++ [.appendLine k line]) = insertedKeys history ++ [] :=
      insertedKeys_append history _
    rw [keys_appendLine, h.keys, hkeys, List.append_nil]
  value k' x := by
    rw [get?_appendLine, hasValue_concat_appendLine]
    split
    · rw [Option.map_eq_some_iff]
      simp only [h.value]
    · exact h.value k' x

/-- **A write keeps up with the history.** -/
theorem write {m : Metadata} {history : List Write} (h : m.Follows history) (w : Write) :
    (m.write w).2.Follows (history ++ [w]) := by
  cases w with
  | insert k v =>
    rw [write_insert]
    exact h.insert k v
  | appendLine k line =>
    rw [write_appendLine]
    exact h.appendLine k line

/-- **A run of writes keeps up with the history.** -/
theorem writeAll {m : Metadata} {history : List Write} (h : m.Follows history) (ws : List Write) :
    (m.writeAll ws).2.Follows (history ++ ws) := by
  induction ws generalizing m history with
  | nil =>
    rw [List.append_nil]
    exact h
  | cons w ws ih =>
    have hrest := ih (h.write w)
    rwa [List.append_assoc] at hrest

theorem ofList (pairs : List (String × String)) :
    (Metadata.ofList pairs).Follows (pairs.map fun p => .insert p.1 p.2) := by
  induction pairs using List.reverseRecOn with
  | nil => exact empty
  | append_singleton pairs p ih =>
    rw [ofList_append_singleton, List.map_append]
    exact ih.insert p.1 p.2

end Follows

/-! ### What metadata answer -/

/-- All that metadata answer is what the history says. -/
structure IsMapOf (m : Metadata) (history : List Write) : Prop where
  nodup : m.keys.Nodup
  keys : m.keys = (insertedKeys history).eraseDups
  value : ∀ k x, m.get? k = some x ↔ HasValue history k x
  absent : ∀ k, m.get? k = none ↔ k ∉ insertedKeys history
  contains : ∀ k, m.contains k = true ↔ k ∈ insertedKeys history
  size : m.size = (insertedKeys history).eraseDups.length
  isEmpty : m.isEmpty = true ↔ insertedKeys history = []
  entries : m.entries.map some = m.keys.map fun k => (m.get? k).map fun v => (k, v)

/-- All that one write does. -/
structure IsWrite (m : Metadata) (history : List Write) (w : Write) (a : Answer) (m' : Metadata) :
    Prop where
  insert : ∀ k v, w = .insert k v → a = .previous (m.get? k)
  appendLine : ∀ k line, w = .appendLine k line → ∃ known, a = .found known ∧
    (known = false ↔ k ∉ insertedKeys history) ∧ (m' = m ↔ k ∉ insertedKeys history)
  others : ∀ (k x : String) (i : Nat), k ≠ w.key →
    (m'.entries[i]? = some (k, x) ↔ m.entries[i]? = some (k, x))

namespace Follows

variable {m : Metadata} {history : List Write}

theorem mem_keys_iff (h : m.Follows history) (k : String) :
    k ∈ m.keys ↔ k ∈ insertedKeys history := by
  rw [h.keys, List.mem_eraseDups]

theorem get?_eq_none_iff (h : m.Follows history) (k : String) :
    m.get? k = none ↔ k ∉ insertedKeys history := by
  rw [← h.mem_keys_iff]
  exact Fields.lookup_eq_none_iff

theorem contains_eq_false_iff (h : m.Follows history) (k : String) :
    m.contains k = false ↔ k ∉ insertedKeys history := by
  rw [← h.get?_eq_none_iff, contains, Option.isSome_eq_false_iff, Option.isNone_iff_eq_none]

theorem isMapOf (h : m.Follows history) : m.IsMapOf history where
  nodup := m.nodup_keys
  keys := h.keys
  value := h.value
  absent := h.get?_eq_none_iff
  contains k := by
    rw [← Bool.not_eq_false, h.contains_eq_false_iff, not_not]
  size := by
    rw [← h.keys]
    exact (List.length_map ..).symm
  isEmpty := by
    have hkeys : m.entries = [] ↔ m.keys = [] := List.map_eq_nil_iff.symm
    rw [isEmpty, List.isEmpty_iff, hkeys, List.eq_nil_iff_forall_not_mem,
      List.eq_nil_iff_forall_not_mem]
    simp only [h.mem_keys_iff]
  entries := by
    rw [Metadata.keys, List.map_map]
    refine List.map_congr_left fun e he => ?_
    show some e = (m.get? e.1).map fun v => (e.1, v)
    rw [get?_of_mem he]
    rfl

theorem appendLine_eq_self_iff (h : m.Follows history) (k line : String) :
    m.appendLine k line = m ↔ k ∉ insertedKeys history := by
  rw [← h.get?_eq_none_iff]
  constructor
  · intro heq
    have hget := get?_appendLine m k k line
    rw [heq, if_pos rfl] at hget
    cases hv : m.get? k with
    | none => rfl
    | some v =>
      rw [hv] at hget
      have hvalue : v = v ++ ("\n" ++ line) := by
        rw [← String.append_assoc]
        exact Option.some.inj hget
      have hlength := congrArg String.length hvalue
      rw [String.length_append, String.length_append] at hlength
      have hfeed : "\n".length = 1 := rfl
      omega
  · intro hnone
    refine ext_get? (keys_appendLine m k line) fun k' => ?_
    rw [get?_appendLine]
    split
    · rename_i hk
      rw [← hk, hnone]
      rfl
    · rfl

theorem isWrite (h : m.Follows history) (w : Write) :
    IsWrite m history w (m.write w).1 (m.write w).2 := by
  cases w with
  | insert k v =>
    rw [write_insert]
    exact {
      insert := by
        rintro _ _ ⟨⟩
        rfl
      appendLine := by
        rintro _ _ ⟨⟩
      others := fun k' x i hne => Fields.getElem?_set_of_ne hne }
  | appendLine k line =>
    rw [write_appendLine]
    exact {
      insert := by
        rintro _ _ ⟨⟩
      appendLine := by
        rintro _ _ ⟨⟩
        exact ⟨_, rfl, h.contains_eq_false_iff k, h.appendLine_eq_self_iff k line⟩
      others := fun k' x i hne => Fields.getElem?_modify_of_ne hne }

end Follows

/-! ### From every start -/

/-- Where metadata come from: they are new, collected from pairs, or converted from the JSON of pairs. -/
inductive Start where
  | new
  | collected (pairs : List (String × String))
  | converted (pairs : List (String × String))

namespace Start

/-- The writes that a start counts as. -/
def writes : Start → List Write
  | new => []
  | collected pairs => pairs.map fun p => .insert p.1 p.2
  | converted pairs => pairs.map fun p => .insert p.1 p.2

/-- The metadata at the start. -/
def metadata? : Start → Option Metadata
  | new => some .empty
  | collected pairs => some (.ofList pairs)
  | converted pairs => ofJson? (.ofPairs pairs)

theorem exists_follows (start : Start) :
    ∃ m, start.metadata? = some m ∧ m.Follows start.writes := by
  cases start with
  | new => exact ⟨_, rfl, .empty⟩
  | collected pairs => exact ⟨_, rfl, .ofList pairs⟩
  | converted pairs => exact ⟨_, ofJson?_ofPairs pairs, .ofList pairs⟩

end Start

/-- **Metadata are a map with its keys in the order of their first insert.** From every start, any number
of writes leaves what the history says, and so it is before and after each of them; its answer and its
effect are those of a write to such a map. What they leave is given back by its pairs, collected or in
JSON, and is no different from other metadata with the same pairs. -/
theorem writeAll_faithful (start : Start) (ws : List Write) :
    ∃ m₀ m, start.metadata? = some m₀ ∧ (m₀.writeAll ws).2 = m ∧
      m.IsMapOf (start.writes ++ ws) ∧ (m₀.writeAll ws).1.length = ws.length ∧
      (∀ before w after, ws = before ++ w :: after →
        ∃ a, (m₀.writeAll ws).1[before.length]? = some a ∧
          IsWrite (m₀.writeAll before).2 (start.writes ++ before) w a (m₀.writeAll (before ++ [w])).2) ∧
      ofList m.entries = m ∧ ofJson? m.toJson = some m ∧
      ∀ m' : Metadata, m = m' ↔ m.entries = m'.entries := by
  obtain ⟨m₀, hstart, hfollows⟩ := start.exists_follows
  refine ⟨m₀, (m₀.writeAll ws).2, hstart, rfl, (hfollows.writeAll ws).isMapOf, length_answers m₀ ws, ?_,
    ofList_entries _, ofJson?_toJson _, fun m' => ⟨congrArg entries, eq_of_entries⟩⟩
  rintro before w after rfl
  refine ⟨_, getElem?_answers m₀ before after w, ?_⟩
  rw [writeAll_concat]
  exact (hfollows.writeAll before).isWrite w

/-- A key that is inserted again loses its lines and keeps its place. -/
example :
    let (answers, m) := Metadata.empty.writeAll [.insert "a" "1", .insert "b" "2",
      .appendLine "a" "x", .insert "a" "3", .appendLine "c" "y", .appendLine "a" "z"]
    answers = [.previous none, .previous none, .found true, .previous (some "1\nx"), .found false,
      .found true] ∧ m.entries = [("a", "3\nz"), ("b", "2")] := by
  decide

end ArchivalBag.Metadata

import ArchivalBag.Proofs.Toml.Quoted
import ArchivalBag.Toml.ConfigForm

/-!
# Documents of lines

A document that has a line for each of its keys is read back line by line: the entries are those of the
lines, in their order, provided that no key is repeated.

* `IsWrittenAs`: the written forms of values; `isWrittenAs_string`, `isWrittenAs_bool`.
* `Line`: a key with the written form of its value; `Line.IsLegible.statement_eq`: what is read of it.
* `Line.IsLegible.document_eq`: what a line adds to a document; `document_lines`, `parse?_lines`: what all
  of its lines make of it.
-/

namespace ArchivalBag.Toml

open Quoted Reader

/-! ### Values -/

/-- The text is read as the value at the end of a line, and a blank in front of it can be told from it. -/
structure IsWrittenAs (text : List Char) (v : Toml) : Prop where
  value_eq : ∀ depth n r, value depth (n + 1) (text ++ '\n' :: r) = some (v, '\n' :: r)
  skipSpace_eq : ∀ r, skipSpace (text ++ '\n' :: r) = text ++ '\n' :: r

/-- A written string starts with one of the two closing characters. -/
theorem exists_write_eq_cons (cs : List Char) :
    ∃ q r, write cs = q :: r ∧ (q = '"' ∨ q = apostrophe) := by
  unfold write Style.write
  cases Style.ofText cs with
  | basic => exact ⟨_, _, rfl, .inl rfl⟩
  | literal => exact ⟨_, _, rfl, .inr rfl⟩
  | basicBlock => exact ⟨_, _, rfl, .inl rfl⟩
  | literalBlock => exact ⟨_, _, rfl, .inr rfl⟩

/-- What opens neither an array nor a table is a string or a scalar. -/
theorem value_of_head? {cs : List Char} (hb : cs.head? ≠ some '[') (hc : cs.head? ≠ some '\x7b')
    (depth n : Nat) :
    value depth (n + 1) cs =
      ((read? cs).map fun x => (Toml.string (String.ofList x.1), x.2)).or (scalar cs) := by
  rw [value.eq_def]
  dsimp only
  split
  · exact absurd rfl hb
  · exact absurd rfl hc
  · cases hr : read? cs with
    | none => rfl
    | some x => rfl

theorem isWrittenAs_string (s : String) : IsWrittenAs (textOfString s) (.string s) := by
  obtain ⟨q, t, hw, hq⟩ := exists_write_eq_cons s.toList
  have hhead : ∀ c, c ≠ '"' → c ≠ apostrophe → ∀ r, (textOfString s ++ r).head? ≠ some c := by
    intro c h₁ h₂ r
    rw [textOfString, hw]
    rcases hq with rfl | rfl
    · simpa using h₁.symm
    · simpa using h₂.symm
  constructor
  · intro depth n r
    have hread : read? (textOfString s ++ '\n' :: r) = some (s.toList, '\n' :: r) :=
      read?_write s.toList (by simp) (by simp [apostrophe])
    rw [value_of_head? (hhead '[' (by decide) (by decide) _) (hhead '\x7b' (by decide) (by decide) _),
      hread, Option.map_some, String.ofList_toList, Option.some_or]
  · intro r
    rw [textOfString, hw, List.cons_append, skipSpace, List.dropWhile_cons_of_neg]
    rcases hq with rfl | rfl <;> decide

theorem isWrittenAs_bool (b : Bool) : IsWrittenAs (textOfBool b) (.bool b) := by
  cases b
  · exact ⟨fun _ _ _ => by rw [value.eq_def]; rfl, fun _ => rfl⟩
  · exact ⟨fun _ _ _ => by rw [value.eq_def]; rfl, fun _ => rfl⟩

/-! ### Lines -/

/-- A key that is written without quotes. -/
structure IsBareKey (k : String) : Prop where
  ne_empty : k.toList ≠ []
  isBare : ∀ c ∈ k.toList, isBare c = true

instance (k : String) : Decidable (IsBareKey k) :=
  decidable_of_iff (k.toList ≠ [] ∧ k.toList.all isBare = true)
    ⟨fun ⟨h₁, h₂⟩ => ⟨h₁, List.all_eq_true.1 h₂⟩, fun ⟨h₁, h₂⟩ => ⟨h₁, List.all_eq_true.2 h₂⟩⟩

/-- A key with a value and its written form. -/
structure Line where
  key : String
  text : List Char
  value : Toml

namespace Line

/-- The line can be read. -/
structure IsLegible (l : Line) : Prop where
  isBareKey : IsBareKey l.key
  isWrittenAs : IsWrittenAs l.text l.value

/-- The text of the line. -/
def content (l : Line) : List Char :=
  line l.key l.text

theorem content_ne_nil (l : Line) : l.content ≠ [] := by
  simp [content, line]

end Line

theorem simpleKey_append {k : String} (h : IsBareKey k) {c : Char} (hc : isBare c = false)
    (r : List Char) : simpleKey (k.toList ++ c :: r) = some (k.toList, c :: r) := by
  have ht : (k.toList ++ c :: r).takeWhile isBare = k.toList := by
    rw [List.takeWhile_append_of_pos h.isBare, List.takeWhile_cons_of_neg (by simp [hc]), List.append_nil]
  have hd : (k.toList ++ c :: r).dropWhile isBare = c :: r := by
    rw [List.dropWhile_append_of_pos h.isBare, List.dropWhile_cons_of_neg (by simp [hc])]
  unfold simpleKey
  rw [ht, hd]
  split
  · rename_i he
    exact absurd he h.ne_empty
  · rfl

/-- A character of a key without quotes starts nothing else. -/
theorem head?_key_ne {k : String} (h : IsBareKey k) {c : Char} (hc : isBare c = false) (r : List Char) :
    (k.toList ++ r).head? ≠ some c := by
  obtain ⟨d, t, hk⟩ := List.exists_cons_of_ne_nil h.ne_empty
  have hd : isBare d = true := h.isBare d (by simp [hk])
  rw [hk, List.cons_append, List.head?_cons]
  rintro hdc
  rw [Option.some.inj hdc, hc] at hd
  cases hd

theorem skipSpace_of_head? {cs : List Char} (hs : cs.head? ≠ some ' ') (ht : cs.head? ≠ some '\t') :
    skipSpace cs = cs := by
  cases cs with
  | nil => rfl
  | cons c cs =>
    rw [skipSpace, List.dropWhile_cons_of_neg]
    simp only [List.head?_cons, ne_eq, Option.some.injEq] at hs ht
    simp [isSpace, hs, ht]

theorem keyAndSign_append {k : String} (h : IsBareKey k) (r : List Char) :
    keyAndSign skipSpace (k.toList ++ ' ' :: '=' :: ' ' :: r) = some ([k], skipSpace r) := by
  have hskip : skipSpace (k.toList ++ ' ' :: '=' :: ' ' :: r) = k.toList ++ ' ' :: '=' :: ' ' :: r :=
    skipSpace_of_head? (head?_key_ne h (by decide) _) (head?_key_ne h (by decide) _)
  have hdotted : ∀ n, dottedKey (n + 1) (k.toList ++ ' ' :: '=' :: ' ' :: r) =
      some ([k], '=' :: ' ' :: r) := by
    intro n
    have hsimple := simpleKey_append h (c := ' ') (by decide) ('=' :: ' ' :: r)
    have hsign : skipSpace (' ' :: '=' :: ' ' :: r) = '=' :: ' ' :: r := rfl
    rw [dottedKey, hskip, hsimple]
    simp [hsign]
  have hkey : key (k.toList ++ ' ' :: '=' :: ' ' :: r) = some ([k], '=' :: ' ' :: r) := by
    rw [key, hdotted]
    rfl
  rw [keyAndSign, hkey]
  rfl

/-- **What is read of a line**: its key and its value. -/
theorem Line.IsLegible.statement_eq {l : Line} (h : l.IsLegible) (r : List Char) :
    statement (l.content ++ r) = some (some (.assignment [l.key] l.value), '\n' :: r) := by
  have hne : ∀ c, isBare c = false → ∀ r, (l.key.toList ++ r).head? ≠ some c :=
    fun c hc r => head?_key_ne h.isBareKey hc r
  have htext : l.content ++ r = l.key.toList ++ ' ' :: '=' :: ' ' :: (l.text ++ '\n' :: r) := by
    simp [content, line]
  have hsign := keyAndSign_append h.isBareKey (l.text ++ '\n' :: r)
  rw [h.isWrittenAs.skipSpace_eq] at hsign
  rw [htext]
  unfold statement
  rw [skipSpace_of_head? (hne ' ' (by decide) _) (hne '\t' (by decide) _)]
  split
  case h_7 =>
    have hvalue : ∀ n, Reader.value maxDepth (n + 2) (l.text ++ '\n' :: r) = some (l.value, '\n' :: r) :=
      fun n => h.isWrittenAs.value_eq maxDepth (n + 1) r
    rw [hsign]
    simp [hvalue]
  case h_3 heq => exact absurd heq (by simp)
  case h_1 heq | h_2 heq | h_4 heq | h_5 heq | h_6 heq =>
    exact absurd (congrArg List.head? heq) (hne _ (by decide) _)

/-! ### Documents -/

theorem find?_append_singleton (k k' : String) (n : Node) (es : Node.Entries) :
    Node.find? k (es ++ [(k', n)]) = (Node.find? k es).or (if k' = k then some n else none) := by
  unfold Node.find?
  rw [List.find?_append, Option.map_or, List.find?_singleton]
  by_cases h : k' = k <;> simp [h]

theorem put_eq_append {k : String} {es : Node.Entries} (h : Node.find? k es = none) (n : Node) :
    Node.put k n es = es ++ [(k, n)] := by
  induction es with
  | nil => rfl
  | cons e es ih =>
    obtain ⟨k', m⟩ := e
    by_cases hk : k' = k
    · simp [Node.find?, hk] at h
    · rw [Node.find?, List.find?_cons_of_neg (by simpa using hk)] at h
      rw [Node.put, if_neg hk, ih h, List.cons_append]

/-- The entries of a document with the given lines. -/
def nodesOf (ls : List Line) : Node.Entries :=
  ls.map fun l => (l.key, .value l.value)

/-- **A line adds its entry** to a document that has no table yet, if its key is new. -/
theorem Line.IsLegible.document_eq {l : Line} (h : l.IsLegible) {es : Node.Entries}
    (hk : Node.find? l.key es = none) (n : Nat) (r : List Char) :
    document (n + 1) (l.content ++ r) ⟨es, []⟩ =
      if r.isEmpty then some ⟨es ++ [(l.key, .value l.value)], []⟩
      else document n r ⟨es ++ [(l.key, .value l.value)], []⟩ := by
  have hend : lineEnd ('\n' :: r) = some r := rfl
  have hadd : Draft.add? ⟨es, []⟩ (.assignment [l.key] l.value) =
      some ⟨es ++ [(l.key, .value l.value)], []⟩ := by
    simp [Draft.add?, Node.alter?, Node.assign?, hk, put_eq_append hk]
  rw [document, h.statement_eq]
  simp [hend, hadd]

/-- **A document of lines is read** from its first line to its last one, behind entries with other
keys. -/
theorem document_lines {ls : List Line} (h : ∀ l ∈ ls, l.IsLegible) {es : Node.Entries}
    (hk : ∀ l ∈ ls, Node.find? l.key es = none) (hnodup : (ls.map Line.key).Nodup) {n : Nat}
    (hn : ls.length < n) :
    document n (ls.flatMap Line.content) ⟨es, []⟩ = some ⟨es ++ nodesOf ls, []⟩ := by
  induction ls generalizing es n with
  | nil =>
    obtain ⟨m, rfl⟩ := Nat.exists_eq_succ_of_ne_zero (Nat.ne_of_gt hn)
    rw [nodesOf, List.map_nil, List.append_nil]
    rfl
  | cons l ls ih =>
    rw [List.length_cons] at hn
    obtain ⟨m, rfl⟩ := Nat.exists_eq_succ_of_ne_zero (Nat.ne_of_gt (Nat.lt_of_le_of_lt (Nat.zero_le _) hn))
    rw [List.forall_mem_cons] at h hk
    obtain ⟨hnot, hnodup⟩ := List.nodup_cons.1 hnodup
    have hk' : ∀ l' ∈ ls, Node.find? l'.key (es ++ [(l.key, .value l.value)]) = none := by
      intro l' hl'
      have hne : l.key ≠ l'.key := fun he => hnot (List.mem_map.2 ⟨l', hl', he.symm⟩)
      rw [find?_append_singleton, hk.2 l' hl', if_neg hne]
      rfl
    have hrest := ih h.2 hk' hnodup (Nat.lt_of_succ_lt_succ hn)
    have hnodes : es ++ nodesOf (l :: ls) = es ++ [(l.key, .value l.value)] ++ nodesOf ls := by
      simp [nodesOf]
    rw [List.flatMap_cons, h.1.document_eq hk.1, hrest, hnodes]
    split
    · rename_i he
      have hnil : ls = [] := by
        rw [List.isEmpty_iff, List.flatMap_eq_nil_iff] at he
        exact List.eq_nil_iff_forall_not_mem.2 fun l' hl' => l'.content_ne_nil (he l' hl')
      rw [hnil, nodesOf, List.map_nil, List.append_nil]
    · rfl

theorem length_le_flatMap_content (ls : List Line) :
    ls.length ≤ (ls.flatMap Line.content).length := by
  induction ls with
  | nil => exact Nat.zero_le _
  | cons l ls ih =>
    have := List.length_pos_iff.2 l.content_ne_nil
    rw [List.flatMap_cons, List.length_append, List.length_cons]
    omega

theorem entriesToToml_nodesOf (ls : List Line) :
    Node.entriesToToml (nodesOf ls) = ls.map fun l => (l.key, l.value) := by
  induction ls with
  | nil => rfl
  | cons l ls ih =>
    rw [List.map_cons, ← ih]
    rfl

theorem dropMark_of_head? {cs : List Char} (h : cs.head? ≠ some '\ufeff') : dropMark cs = cs := by
  unfold dropMark
  split
  · exact absurd rfl h
  · rfl

/-- **A document with a line for each of its keys** has just these entries. -/
theorem parse?_lines {ls : List Line} (h : ∀ l ∈ ls, l.IsLegible)
    (hnodup : (ls.map Line.key).Nodup) :
    parse? (String.ofList (ls.flatMap Line.content)) = some (ls.map fun l => (l.key, l.value)) := by
  have hmark : (ls.flatMap Line.content).head? ≠ some '\ufeff' := by
    cases ls with
    | nil => simp
    | cons l ls =>
      rw [List.flatMap_cons, Line.content, line, List.append_assoc]
      exact head?_key_ne (h l List.mem_cons_self).isBareKey (by decide) _
  have hlength := Nat.lt_succ_of_le (length_le_flatMap_content ls)
  unfold parse?
  rw [String.toList_ofList]
  dsimp only
  rw [dropMark_of_head? hmark, document_lines h (fun _ _ => rfl) hnodup hlength, Option.map_some,
    List.nil_append, entriesToToml_nodesOf]

end ArchivalBag.Toml

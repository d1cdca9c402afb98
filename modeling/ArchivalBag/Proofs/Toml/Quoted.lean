import ArchivalBag.Toml.Quoted

/-!
# Strings read back

A string is read back from its written form, whatever it holds. Between quotes this needs no condition,
since every character that would not stand for itself is escaped; between apostrophes nothing is
escaped, so that the text itself must fit. In a block up to two quotes in a row stand for themselves,
also in front of the closing ones, and this is why a run of quotes is read as a whole.

* `basicBody_escapeFrom`, `basicBlockBody_escapeFrom`: escaped texts.
* `literalBody_append`, `literalBlockBody_append`: texts that stand for themselves.
* `Style.Keeps`, `Style.ofText_keeps`: the style of a text can hold it.
* `read?_write`: the string at the front of a text that starts with a written one.
-/

namespace ArchivalBag.Toml.Quoted

open Text

/-! ### One character between quotes -/

theorem isPlain_of_isControl {c : Char} (h : isControl c = false) (hn : c ≠ '\n') : isPlain c = true := by
  simp only [isControl, isPlain, Bool.or_eq_false_iff, Bool.and_eq_false_iff, Bool.or_eq_true,
    Bool.and_eq_true, decide_eq_false_iff_not, decide_eq_true_eq, bne_eq_false_iff_eq, bne_iff_ne,
    beq_eq_false_iff_ne, beq_iff_eq, ne_eq] at h ⊢
  obtain ⟨(h | h) | h, h'⟩ := h
  · exact .inr ⟨Nat.le_of_not_lt h, h'⟩
  · exact .inl h
  · exact absurd h hn

theorem toNat_lt_of_isControl {c : Char} (h : isControl c = true) : c.toNat < 256 := by
  simp only [isControl, Bool.or_eq_true, Bool.and_eq_true, decide_eq_true_eq, beq_iff_eq] at h
  omega

/-- A short escape stands for its character. -/
theorem shortEscaped?_of_shortEscape? {block : Bool} {c e : Char} (h : shortEscape? block c = some e) :
    shortEscaped? e = some c := by
  have hc : Char.ofNat c.toNat = c := Char.ofNat_toNat c
  unfold shortEscape? at h
  split at h
  case h_3 =>
    split at h
    · cases h
    · rename_i hn _
      rw [hn] at hc
      rw [← Option.some.inj h, ← hc]
      rfl
  case h_7 => cases h
  all_goals
    rename_i hn
    rw [hn] at hc
    rw [← Option.some.inj h, ← hc]
    rfl

/-- A character without a short escape, and what is special about those that have one. -/
theorem of_shortEscape?_eq_none {block : Bool} {c : Char} (h : shortEscape? block c = none) :
    c ≠ '\\' ∧ (c = '\n' → block = true) := by
  constructor
  · rintro rfl
    cases h
  · rintro rfl
    cases block
    · cases h
    · rfl

/-- Four digits for a character of one byte. -/
theorem codePoint?_digits {n : Nat} (h : n < 256) :
    codePoint? ['0', '0', hexDigit (n / 16), hexDigit (n % 16)] = some (Char.ofNat n) := by
  have h₁ : hexValue? (hexDigit (n / 16)) = some (n / 16) := hexValue?_hexDigit (by omega)
  have h₂ : hexValue? (hexDigit (n % 16)) = some (n % 16) := hexValue?_hexDigit (by omega)
  have h₀ : hexValue? '0' = some 0 := rfl
  have hn : 16 * (n / 16) + n % 16 = n := by omega
  have hv : n.isValidChar := Or.inl (by omega)
  simp [codePoint?, hexNumber?, h₀, h₁, h₂, hn, hv]

theorem basicBody_short {e c : Char} (h : shortEscaped? e = some c) (r : List Char) :
    basicBody ('\\' :: e :: r) = consTo c (basicBody r) := by
  unfold shortEscaped? at h
  split at h
  case h_9 => cases h
  all_goals
    rw [← Option.some.inj h]
    simp [basicBody, shortEscaped?]

theorem basicBlockBody_short {e c : Char} (h : shortEscaped? e = some c) (r : List Char) :
    basicBlockBody false ('\\' :: e :: r) = consTo c (basicBlockBody false r) := by
  unfold shortEscaped? at h
  split at h
  case h_9 => cases h
  all_goals
    rw [← Option.some.inj h]
    simp [basicBlockBody, shortEscaped?, lineEnds]

theorem basicBody_plain {c : Char} (hp : isPlain c = true) (hb : c ≠ '\\') (hq : c ≠ '"')
    (r : List Char) : basicBody (c :: r) = consTo c (basicBody r) := by
  rw [basicBody]
  · rw [if_pos (by simp [hp, hb])]
  all_goals simp [hb, hq]

theorem basicBlockBody_plain {c : Char} (hp : isPlain c = true ∨ c = '\n') (hb : c ≠ '\\')
    {r : List Char} (hq : ¬ ['"', '"', '"'] <+: c :: r) :
    basicBlockBody false (c :: r) = consTo c (basicBlockBody false r) := by
  rw [basicBlockBody]
  · rw [if_neg (by simp), if_pos (by simpa [hb] using hp)]
  case x_1 =>
    rintro r' rfl rfl
    exact hq ⟨r', rfl⟩
  case x_6 =>
    rintro r' rfl -
    revert hp
    decide
  all_goals simp [hb]

/-- How a character other than a quote is escaped. -/
theorem escape_cases (block : Bool) (c : Char) :
    (∃ e, shortEscaped? e = some c ∧ escape block c = ['\\', e]) ∨
      (isControl c = true ∧
        escape block c = ['\\', 'u', '0', '0', hexDigit (c.toNat / 16), hexDigit (c.toNat % 16)]) ∨
      ((isPlain c = true ∨ block = true ∧ c = '\n') ∧ c ≠ '\\' ∧ escape block c = [c]) := by
  unfold escape
  cases he : shortEscape? block c with
  | some e => exact .inl ⟨e, shortEscaped?_of_shortEscape? he, rfl⟩
  | none =>
    obtain ⟨hb, hn⟩ := of_shortEscape?_eq_none he
    cases hc : isControl c with
    | true => exact .inr (.inl ⟨rfl, by simp⟩)
    | false =>
      refine .inr (.inr ⟨?_, hb, by simp⟩)
      by_cases hl : c = '\n'
      · exact .inr ⟨hn hl, hl⟩
      · exact .inl (isPlain_of_isControl hc hl)

/-- **A character on one line** is read back. -/
theorem basicBody_escape {c : Char} (hq : c ≠ '"') (r : List Char) :
    basicBody (escape false c ++ r) = consTo c (basicBody r) := by
  rcases escape_cases false c with ⟨e, he, h⟩ | ⟨hc, h⟩ | ⟨hp | ⟨hf, -⟩, hb, h⟩
  · rw [h]
    exact basicBody_short he r
  · rw [h, List.cons_append, List.cons_append, List.cons_append, List.cons_append, List.cons_append,
      List.cons_append, List.nil_append, basicBody, codePoint?_digits (toNat_lt_of_isControl hc),
      Char.ofNat_toNat]
    rfl
  · rw [h]
    exact basicBody_plain hp hb hq r
  · cases hf

/-- **A character of a block** is read back. -/
theorem basicBlockBody_escape {c : Char} (hq : c ≠ '"') (r : List Char) :
    basicBlockBody false (escape true c ++ r) = consTo c (basicBlockBody false r) := by
  rcases escape_cases true c with ⟨e, he, h⟩ | ⟨hc, h⟩ | ⟨hp, hb, h⟩
  · rw [h]
    exact basicBlockBody_short he r
  · rw [h, List.cons_append, List.cons_append, List.cons_append, List.cons_append, List.cons_append,
      List.cons_append, List.nil_append, basicBlockBody, codePoint?_digits (toNat_lt_of_isControl hc),
      Char.ofNat_toNat]
    rfl
  · rw [h]
    refine basicBlockBody_plain (hp.imp id And.right) hb ?_
    rintro ⟨r', hr⟩
    exact hq (List.cons.inj hr).1.symm

/-- No escape starts with a quote. -/
theorem head?_escape_ne (block : Bool) {c : Char} (hq : c ≠ '"') (r : List Char) :
    (escape block c ++ r).head? ≠ some '"' := by
  rcases escape_cases block c with ⟨e, -, h⟩ | ⟨-, h⟩ | ⟨-, -, h⟩
  · simp [h]
  · simp [h]
  · simpa [h] using hq

/-! ### Runs of a closing character -/

/-- What was read, with more text in front of it. -/
def prependTo (a : List Char) (x : Option (List Char × List Char)) : Option (List Char × List Char) :=
  x.map fun (b, rest) => (a ++ b, rest)

theorem prependTo_cons (c : Char) (a : List Char) (x : Option (List Char × List Char)) :
    prependTo (c :: a) x = consTo c (prependTo a x) := by
  cases x <;> rfl

theorem prependTo_nil (x : Option (List Char × List Char)) : prependTo [] x = x := by
  cases x <;> rfl

/-- A run of up to two closing characters in front of three of them belongs to the text. -/
theorem closeBlock_replicate {q : Char} {k : Nat} (hk : k ≤ 2) {rest : List Char}
    (hr : rest.head? ≠ some q) :
    closeBlock q (List.replicate k q ++ rest) = (List.replicate k q, rest) := by
  match k, hk with
  | 0, _ => rcases rest with _ | ⟨a, _ | ⟨b, r⟩⟩ <;> simp_all [closeBlock]
  | 1, _ => rcases rest with _ | ⟨b, r⟩ <;> simp_all [closeBlock]
  | 2, _ => simp [closeBlock, List.replicate]

/-- Where a run of up to two closing characters is read from. -/
theorem replicate_append_closing (q : Char) (k : Nat) (rest : List Char) :
    List.replicate k q ++ q :: q :: q :: rest = q :: q :: q :: (List.replicate k q ++ rest) := by
  induction k with
  | zero => rfl
  | succ k ih => rw [List.replicate_succ, List.cons_append, List.cons_append, ih]

/-- **A run of a closing character** that does not close a block stands for itself, if each of its
characters does. -/
theorem apply_replicate {f : List Char → Option (List Char × List Char)} {q : Char}
    (hf : ∀ r, ¬ [q, q, q] <+: q :: r → f (q :: r) = consTo q (f r)) {k : Nat} (hk : k ≤ 2)
    {x : List Char} (hx : x.head? ≠ some q) :
    f (List.replicate k q ++ x) = prependTo (List.replicate k q) (f x) := by
  have hone : f (q :: x) = consTo q (f x) := by
    refine hf x ?_
    rintro ⟨r, hr⟩
    obtain rfl := (List.cons.inj hr).2
    exact hx rfl
  match k, hk with
  | 0, _ => exact (prependTo_nil _).symm
  | 1, _ => rw [List.replicate_one, prependTo_cons, prependTo_nil, List.singleton_append, hone]
  | 2, _ =>
    have htwo : f (q :: q :: x) = consTo q (f (q :: x)) := by
      refine hf (q :: x) ?_
      rintro ⟨r, hr⟩
      obtain rfl := (List.cons.inj (List.cons.inj hr).2).2
      exact hx rfl
    rw [List.replicate_succ, List.replicate_one, prependTo_cons, prependTo_cons, prependTo_nil,
      List.cons_append, List.singleton_append, htwo, hone]

theorem basicBlockBody_replicate {k : Nat} (hk : k ≤ 2) {x : List Char} (hx : x.head? ≠ some '"') :
    basicBlockBody false (List.replicate k '"' ++ x) =
      prependTo (List.replicate k '"') (basicBlockBody false x) :=
  apply_replicate (fun _ hr => basicBlockBody_plain (by decide) (by decide) hr) hk hx

theorem literalBlockBody_plain {c : Char} (hp : isPlain c = true ∨ c = '\n') {r : List Char}
    (hq : ¬ [apostrophe, apostrophe, apostrophe] <+: c :: r) :
    literalBlockBody (c :: r) = consTo c (literalBlockBody r) := by
  rw [literalBlockBody]
  · rw [if_pos (by simpa using hp)]
  · rintro r' rfl rfl
    exact hq ⟨r', rfl⟩
  · rintro r' rfl -
    revert hp
    decide

theorem literalBlockBody_replicate {k : Nat} (hk : k ≤ 2) {x : List Char}
    (hx : x.head? ≠ some apostrophe) :
    literalBlockBody (List.replicate k apostrophe ++ x) =
      prependTo (List.replicate k apostrophe) (literalBlockBody x) :=
  apply_replicate (fun _ hr => literalBlockBody_plain (by decide) hr) hk hx

/-! ### Whole texts -/

/-- **An escaped text on one line** is read back. -/
theorem basicBody_escapeFrom (cs rest : List Char) :
    basicBody (escapeFrom false 0 0 cs ++ '"' :: rest) = some (cs, rest) := by
  induction cs with
  | nil => rw [escapeFrom, List.nil_append, basicBody]
  | cons c cs ih =>
    rw [escapeFrom]
    by_cases hq : c = '"'
    · rw [if_pos hq, if_neg (Nat.lt_irrefl 0), List.cons_append, List.cons_append,
        basicBody_short (c := '"') rfl, ih, hq]
      rfl
    · rw [if_neg hq, List.append_assoc, basicBody_escape hq, ih]
      rfl

/-- **An escaped text of a block** is read back, behind a run of quotes that belongs to it. The
induction keeps the run in front of the text, because its quotes cannot be told from closing ones
before the character behind them is known. -/
theorem basicBlockBody_escapeFrom {k : Nat} (hk : k ≤ 2) (cs : List Char) {rest : List Char}
    (hr : rest.head? ≠ some '"') :
    basicBlockBody false
        (List.replicate k '"' ++ (escapeFrom true 2 k cs ++ '"' :: '"' :: '"' :: rest)) =
      some (List.replicate k '"' ++ cs, rest) := by
  induction cs generalizing k with
  | nil =>
    rw [escapeFrom, List.nil_append, replicate_append_closing, basicBlockBody,
      closeBlock_replicate hk hr, List.append_nil]
  | cons c cs ih =>
    have h₀ : basicBlockBody false (escapeFrom true 2 0 cs ++ '"' :: '"' :: '"' :: rest) =
        some (cs, rest) := ih (Nat.zero_le 2)
    rw [escapeFrom]
    by_cases hq : c = '"'
    · rw [if_pos hq]
      by_cases hlt : k < 2
      · have h := ih (show k + 1 ≤ 2 from hlt)
        rw [List.replicate_succ', List.append_assoc, List.append_assoc] at h
        rw [if_pos hlt, hq]
        exact h
      · rw [if_neg hlt, List.cons_append, List.cons_append, basicBlockBody_replicate hk (by simp),
          basicBlockBody_short (c := '"') rfl, h₀, hq]
        rfl
    · rw [if_neg hq, List.append_assoc,
        basicBlockBody_replicate hk (head?_escape_ne true hq _), basicBlockBody_escape hq, h₀]
      rfl

/-- **A text between apostrophes** is read back if it fits on a line and has none itself. -/
theorem literalBody_append {cs : List Char} (hp : ∀ c ∈ cs, isPlain c = true)
    (ha : apostrophe ∉ cs) (rest : List Char) :
    literalBody (cs ++ apostrophe :: rest) = some (cs, rest) := by
  induction cs with
  | nil => rw [List.nil_append, literalBody, if_pos rfl]
  | cons c cs ih =>
    rw [List.forall_mem_cons] at hp
    rw [List.mem_cons, not_or] at ha
    rw [List.cons_append, literalBody, if_neg (Ne.symm ha.1), if_pos hp.1, ih hp.2 ha.2]
    rfl

/-! ### Runs of apostrophes -/

theorem le_longestRunFrom (q : Char) (run best : Nat) (cs : List Char) :
    best ≤ longestRunFrom q run best cs := by
  induction cs generalizing run best with
  | nil => exact Nat.le_refl best
  | cons c cs ih =>
    rw [longestRunFrom]
    split
    · exact Nat.le_trans (Nat.le_max_left best (run + 1)) (ih (run + 1) _)
    · exact ih 0 best

theorem lt_longestRunFrom_of_mem {q : Char} {cs : List Char} (h : q ∈ cs) (run best : Nat) :
    0 < longestRunFrom q run best cs := by
  induction cs generalizing run best with
  | nil => cases h
  | cons c cs ih =>
    rw [longestRunFrom]
    split
    · have := le_longestRunFrom q (run + 1) (max best (run + 1)) cs
      omega
    · rename_i hc
      exact ih ((List.mem_cons.1 h).resolve_left (Ne.symm hc)) 0 best

theorem notMem_of_longestRun {q : Char} {cs : List Char} (h : longestRun q cs = 0) : q ∉ cs := by
  intro hq
  have := lt_longestRunFrom_of_mem hq 0 0
  rw [longestRun] at h
  omega

/-- **A text of a block between apostrophes** is read back if it has no three of them in a row. -/
theorem literalBlockBody_append {k best : Nat} (hk : k ≤ 2) {cs : List Char}
    (hp : ∀ c ∈ cs, isPlain c = true ∨ c = '\n') (ha : longestRunFrom apostrophe k best cs ≤ 2)
    {rest : List Char} (hr : rest.head? ≠ some apostrophe) :
    literalBlockBody (List.replicate k apostrophe ++
        (cs ++ apostrophe :: apostrophe :: apostrophe :: rest)) =
      some (List.replicate k apostrophe ++ cs, rest) := by
  induction cs generalizing k best with
  | nil =>
    rw [List.nil_append, replicate_append_closing]
    show some (closeBlock apostrophe _) = _
    rw [closeBlock_replicate hk hr, List.append_nil]
  | cons c cs ih =>
    rw [List.forall_mem_cons] at hp
    rw [longestRunFrom] at ha
    by_cases hq : c = apostrophe
    · rw [if_pos hq] at ha
      have hle := le_longestRunFrom apostrophe (k + 1) (max best (k + 1)) cs
      have h := ih (show k + 1 ≤ 2 by omega) hp.2 ha
      rw [List.replicate_succ', List.append_assoc, List.append_assoc] at h
      rw [hq]
      exact h
    · rw [if_neg hq] at ha
      have h := ih (Nat.zero_le 2) hp.2 ha
      have hhead : (c :: (cs ++ apostrophe :: apostrophe :: apostrophe :: rest)).head? ≠
          some apostrophe := by simpa using hq
      rw [List.cons_append, literalBlockBody_replicate hk hhead, literalBlockBody_plain hp.1]
      · rw [List.replicate_zero, List.nil_append, List.nil_append] at h
        rw [h]
        rfl
      · rintro ⟨r, hr⟩
        exact hq (List.cons.inj hr).1.symm

/-! ### Styles -/

/-- **A style can hold a text**: what is not escaped stands for itself and closes nothing. -/
def Style.Keeps : Style → List Char → Prop
  | .basic, _ => True
  | .basicBlock, _ => True
  | .literal, cs => (∀ c ∈ cs, isPlain c = true) ∧ apostrophe ∉ cs
  | .literalBlock, cs => (∀ c ∈ cs, isPlain c = true ∨ c = '\n') ∧ longestRun apostrophe cs ≤ 2

/-- **The style a text is written in** can hold it. -/
theorem Style.ofText_keeps (cs : List Char) : (Style.ofText cs).Keeps cs := by
  have hplain : (!cs.any isControl) = true → ∀ c ∈ cs, isPlain c = true ∨ c = '\n' := by
    intro h c hc
    have hcontrol : isControl c = false := by
      rw [Bool.not_eq_true', List.any_eq_false] at h
      exact Bool.eq_false_iff.2 (h c hc)
    by_cases hn : c = '\n'
    · exact .inr hn
    · exact .inl (isPlain_of_isControl hcontrol hn)
  unfold ofText
  dsimp only
  split
  · trivial
  split
  · rename_i h
    simp only [Bool.and_eq_true, beq_iff_eq, Bool.not_eq_true'] at h
    obtain ⟨⟨hp, ha⟩, hn⟩ := h
    have hnot : '\n' ∉ cs := by simpa using hn
    refine ⟨fun c hc => (hplain (by simpa using hp) c hc).resolve_right ?_, notMem_of_longestRun ha⟩
    rintro rfl
    exact hnot hc
  split
  · trivial
  split
  · rename_i h
    simp only [Bool.and_eq_true, decide_eq_true_eq] at h
    exact ⟨hplain h.1, h.2⟩
  split <;> trivial

/-- The line feed behind the opening of a block does not belong to the text, which starts with one of
its own only if there is that one in front of it. -/
theorem dropLineFeed_opening {style : Style} (hs : style.isBlock = true) {cs x : List Char}
    (hx : '\n' ∉ cs → x.head? ≠ some '\n' ∧ x.head? ≠ some '\r') :
    dropLineFeed (style.opening cs ++ x) = x := by
  unfold Style.opening
  rw [hs, Bool.true_and]
  cases hc : cs.contains '\n' with
  | true => rfl
  | false =>
    have hnot : '\n' ∉ cs := by simpa using hc
    obtain ⟨hn, hcr⟩ := hx hnot
    rw [if_neg Bool.false_ne_true, List.nil_append]
    unfold dropLineFeed
    split
    · exact absurd rfl hn
    · exact absurd rfl hcr
    · rfl

theorem isPlain_ne {c : Char} (h : isPlain c = true) : c ≠ '\n' ∧ c ≠ '\r' := by
  constructor
  · rintro rfl
    revert h
    decide
  · rintro rfl
    revert h
    decide

theorem head?_escapeFrom_ne {cs : List Char} (h : '\n' ∉ cs) (rest : List Char) :
    (escapeFrom true 2 0 cs ++ '"' :: rest).head? ≠ some '\n' ∧
      (escapeFrom true 2 0 cs ++ '"' :: rest).head? ≠ some '\r' := by
  cases cs with
  | nil => simp [escapeFrom]
  | cons c cs =>
    rw [List.mem_cons, not_or] at h
    rw [escapeFrom]
    by_cases hq : c = '"'
    · simp [hq]
    · rw [if_neg hq]
      rcases escape_cases true c with ⟨e, -, he⟩ | ⟨-, he⟩ | ⟨hp, -, he⟩
      · simp [he]
      · simp [he]
      · have hne := isPlain_ne (hp.resolve_right fun hn => h.1 hn.2.symm)
        simpa [he] using hne

theorem head?_append_ne {cs : List Char} (hp : ∀ c ∈ cs, isPlain c = true ∨ c = '\n')
    (h : '\n' ∉ cs) (rest : List Char) :
    (cs ++ apostrophe :: rest).head? ≠ some '\n' ∧ (cs ++ apostrophe :: rest).head? ≠ some '\r' := by
  cases cs with
  | nil => simp [apostrophe]
  | cons c cs =>
    rw [List.mem_cons, not_or] at h
    have hne := isPlain_ne ((hp c List.mem_cons_self).resolve_right fun hn => h.1 hn.symm)
    simpa using hne

/-! ### Written strings -/

/-- A string that opens no block is on one line. -/
theorem read?_eq_readKey? {cs : List Char} (hq : ¬ ['"', '"', '"'] <+: cs)
    (ha : ¬ [apostrophe, apostrophe, apostrophe] <+: cs) : read? cs = readKey? cs := by
  unfold read?
  split
  · exact absurd ⟨_, rfl⟩ hq
  · exact absurd ⟨_, rfl⟩ ha
  · rfl

/-- **A string is read back** in every style that can hold it. -/
theorem Style.read?_write {style : Style} {cs : List Char} (h : style.Keeps cs) {rest : List Char}
    (hq : rest.head? ≠ some '"') (ha : rest.head? ≠ some apostrophe) :
    read? (style.write cs ++ rest) = some (cs, rest) := by
  cases style with
  | basic =>
    have hbody := basicBody_escapeFrom cs rest
    have hw : Style.basic.write cs ++ rest = '"' :: (escapeFrom false 0 0 cs ++ '"' :: rest) := by
      simp [write, delimiter, opening, content, isBlock]
    rw [hw, read?_eq_readKey?]
    · exact hbody
    · rintro ⟨r, hr⟩
      rw [← (List.cons.inj hr).2] at hbody
      obtain ⟨-, hrest⟩ := Prod.mk.inj (Option.some.inj hbody)
      exact hq (hrest ▸ rfl)
    · rintro ⟨r, hr⟩
      exact absurd (List.cons.inj hr).1 (by decide)
  | literal =>
    have hbody := literalBody_append h.1 h.2 rest
    have hw : Style.literal.write cs ++ rest = apostrophe :: (cs ++ apostrophe :: rest) := by
      simp [write, delimiter, opening, content, isBlock]
    rw [hw, read?_eq_readKey?]
    · exact hbody
    · rintro ⟨r, hr⟩
      exact absurd (List.cons.inj hr).1 (by decide)
    · rintro ⟨r, hr⟩
      rw [← (List.cons.inj hr).2] at hbody
      obtain ⟨-, hrest⟩ := Prod.mk.inj (Option.some.inj hbody)
      exact ha (hrest ▸ rfl)
  | basicBlock =>
    have hw : Style.basicBlock.write cs ++ rest = '"' :: '"' :: '"' :: (Style.basicBlock.opening cs ++
        (escapeFrom true 2 0 cs ++ '"' :: '"' :: '"' :: rest)) := by
      simp [write, delimiter, content]
    rw [hw, read?, dropLineFeed_opening rfl fun hn => head?_escapeFrom_ne hn _]
    exact basicBlockBody_escapeFrom (Nat.zero_le 2) cs hq
  | literalBlock =>
    have hw : Style.literalBlock.write cs ++ rest = apostrophe :: apostrophe :: apostrophe ::
        (Style.literalBlock.opening cs ++
          (cs ++ apostrophe :: apostrophe :: apostrophe :: rest)) := by
      simp [write, delimiter, content]
    rw [hw]
    show literalBlockBody (dropLineFeed _) = _
    rw [dropLineFeed_opening rfl fun hn => head?_append_ne h.1 hn _]
    exact literalBlockBody_append (Nat.zero_le 2) h.1 h.2 ha

/-- **A written string is read back.** -/
theorem read?_write (cs : List Char) {rest : List Char} (hq : rest.head? ≠ some '"')
    (ha : rest.head? ≠ some apostrophe) : read? (write cs ++ rest) = some (cs, rest) :=
  Style.read?_write (Style.ofText_keeps cs) hq ha

end ArchivalBag.Toml.Quoted

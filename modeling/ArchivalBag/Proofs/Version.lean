import ArchivalBag.Proofs.Text.Cut
import ArchivalBag.Proofs.Text.Decimal
import ArchivalBag.Reading.Declaration

/-!
# The tokens of versions

A token stands for a version exactly if it has a numeral in front of its first dot and another one
between this and the next dot or the end. For every other token the reason names what is missing first:
the dot, the number in front of it, the number behind it.

* `HasSegments`: the two segments of a token; `parse_of_hasSegments`: they alone are looked at.
* `Denotes`, `parse_eq_ok_iff`: the tokens of a version.
* `Rejects`, `parse_eq_error_iff`: the other tokens, and what is said about each of them.
* `parse_grammar`: both, and that the token of a version stands for it.
-/

namespace ArchivalBag.Version

open Text

variable {token : String} {a b : List Char} {v : Version} {f : Fault}

/-! ### Segments -/

/-- The segments of a token: what stands in front of its first dot, and what stands between this and the
second dot, or the end if there is no second one. -/
def HasSegments (token : String) (a b : List Char) : Prop :=
  '.' ∉ a ∧ '.' ∉ b ∧
    (token.toList = a ++ '.' :: b ∨ ∃ r, token.toList = a ++ '.' :: b ++ '.' :: r)

theorem notMem_dot_iff {cs : List Char} : '.' ∉ cs ↔ ∀ c ∈ cs, (c == '.') = false := by
  simp only [beq_eq_false_iff_ne, ne_eq]
  exact ⟨fun h c hc hd => h (hd ▸ hc), fun h hd => h '.' hd rfl⟩

theorem splitAt?_dot_eq_none_iff {cs : List Char} : splitAt? (· == '.') cs = none ↔ '.' ∉ cs := by
  rw [splitAt?_eq_none_iff, notMem_dot_iff]

theorem splitAt?_dot_eq_some_iff {cs r : List Char} :
    splitAt? (· == '.') cs = some (a, r) ↔ '.' ∉ a ∧ cs = a ++ '.' :: r := by
  rw [splitAt?_eq_some_iff, notMem_dot_iff]
  simp only [beq_iff_eq, exists_eq_left]

/-- The text up to the first dot. -/
theorem untilDot_eq_iff {cs : List Char} :
    untilDot cs = b ↔ '.' ∉ b ∧ (cs = b ∨ ∃ r, cs = b ++ '.' :: r) := by
  rw [untilDot]
  cases hs : splitAt? (· == '.') cs with
  | none =>
    have hcs := splitAt?_dot_eq_none_iff.1 hs
    constructor
    · rintro rfl
      exact ⟨hcs, .inl rfl⟩
    · rintro ⟨-, rfl | ⟨r, rfl⟩⟩
      · rfl
      · exact absurd (List.mem_append_right b List.mem_cons_self) hcs
  | some ab =>
    obtain ⟨x, r⟩ := ab
    obtain ⟨hx, rfl⟩ := splitAt?_dot_eq_some_iff.1 hs
    constructor
    · rintro rfl
      exact ⟨hx, .inr ⟨r, rfl⟩⟩
    · rintro ⟨hb, rfl | ⟨r', hr⟩⟩
      · exact absurd (List.mem_append_right x List.mem_cons_self) hb
      · rw [splitAt?_dot_eq_some_iff.2 ⟨hb, hr⟩] at hs
        exact (Prod.mk.inj (Option.some.inj hs)).1.symm

theorem hasSegments_iff :
    HasSegments token a b ↔
      ∃ r, splitAt? (· == '.') token.toList = some (a, r) ∧ untilDot r = b := by
  simp only [splitAt?_dot_eq_some_iff, untilDot_eq_iff]
  constructor
  · rintro ⟨ha, hb, h | ⟨r, h⟩⟩
    · exact ⟨b, ⟨ha, h⟩, hb, .inl rfl⟩
    · have hr : token.toList = a ++ '.' :: (b ++ '.' :: r) := by
        rw [h, List.append_assoc, List.cons_append]
      exact ⟨b ++ '.' :: r, ⟨ha, hr⟩, hb, .inr ⟨r, rfl⟩⟩
  · rintro ⟨r, ⟨ha, h⟩, hb, rfl | ⟨r', rfl⟩⟩
    · exact ⟨ha, hb, .inl h⟩
    · exact ⟨ha, hb, .inr ⟨r', by rw [h, List.append_assoc, List.cons_append]⟩⟩

theorem exists_hasSegments_iff : (∃ a b, HasSegments token a b) ↔ '.' ∈ token.toList := by
  constructor
  · rintro ⟨a, b, -, -, h | ⟨r, h⟩⟩ <;> rw [h] <;> simp
  · intro h
    obtain ⟨⟨a, r⟩, hs⟩ := Option.ne_none_iff_exists'.1 (mt splitAt?_dot_eq_none_iff.1 (not_not.2 h))
    exact ⟨a, untilDot r, hasSegments_iff.2 ⟨r, hs, rfl⟩⟩

/-- **The segments of a token** are all that is looked at. -/
theorem parse_of_hasSegments (h : HasSegments token a b) :
    parse token = (do pure ⟨← parsePart .major a, ← parsePart .minor b⟩) := by
  obtain ⟨r, hs, rfl⟩ := hasSegments_iff.1 h
  rw [parse, hs]
  cases hmajor : parsePart .major a with
  | error f => simp [hmajor, bind, Except.bind]
  | ok major =>
    cases hminor : parsePart .minor (untilDot r) with
    | error f => simp [hmajor, hminor, bind, Except.bind]
    | ok minor => simp [hmajor, hminor, bind, Except.bind, pure, Except.pure]

/-- A token has its segments in one way only. -/
theorem HasSegments.unique {a' b' : List Char} (h : HasSegments token a b)
    (h' : HasSegments token a' b') : a = a' ∧ b = b' := by
  obtain ⟨r, hs, rfl⟩ := hasSegments_iff.1 h
  obtain ⟨r', hs', rfl⟩ := hasSegments_iff.1 h'
  rw [hs] at hs'
  obtain ⟨rfl, rfl⟩ := Prod.mk.inj (Option.some.inj hs')
  exact ⟨rfl, rfl⟩

/-! ### Tokens of versions -/

theorem parsePart_eq_ok_iff {part : Part} {n : UInt64} : parsePart part a = .ok n ↔ IsNumeral a n := by
  rw [← readWord_eq_ok_iff, parsePart]
  cases readWord a <;> simp

theorem parsePart_eq_error_iff {part : Part} :
    parsePart part a = .error f ↔
      ∃ fault, f = .badPart part (String.ofList a) fault ∧ LacksWord a fault := by
  simp only [← readWord_eq_error_iff, parsePart]
  cases readWord a <;> simp [eq_comm]

/-- The token stands for the version: it is a numeral, a dot and another numeral, and perhaps another
dot with anything behind it. -/
def Denotes (token : String) (v : Version) : Prop :=
  ∃ a b, (token.toList = a ++ '.' :: b ∨ ∃ r, token.toList = a ++ '.' :: b ++ '.' :: r) ∧
    IsNumeral a v.major ∧ IsNumeral b v.minor

theorem notMem_dot_of_isNumeral {n : UInt64} (h : IsNumeral a n) : '.' ∉ a := fun hd =>
  absurd (h.isDigit hd) (by decide)

theorem denotes_iff :
    Denotes token v ↔ ∃ a b, HasSegments token a b ∧ IsNumeral a v.major ∧ IsNumeral b v.minor := by
  constructor
  · rintro ⟨a, b, h, ha, hb⟩
    exact ⟨a, b, ⟨notMem_dot_of_isNumeral ha, notMem_dot_of_isNumeral hb, h⟩, ha, hb⟩
  · rintro ⟨a, b, ⟨-, -, h⟩, ha, hb⟩
    exact ⟨a, b, h, ha, hb⟩

/-- What is wrong with a token that stands for no version. Of two faults the one in front counts. -/
inductive Rejects (token : String) : Fault → Prop
  | noDot (h : '.' ∉ token.toList) : Rejects token .noDot
  | major {a b : List Char} {f : DecimalFault} (h : HasSegments token a b) (ha : LacksWord a f) :
      Rejects token (.badPart .major (String.ofList a) f)
  | minor {a b : List Char} {n : UInt64} {f : DecimalFault} (h : HasSegments token a b)
      (ha : IsNumeral a n) (hb : LacksWord b f) : Rejects token (.badPart .minor (String.ofList b) f)

theorem parse_of_denotes (h : Denotes token v) : parse token = .ok v := by
  obtain ⟨a, b, hs, ha, hb⟩ := denotes_iff.1 h
  rw [parse_of_hasSegments hs, parsePart_eq_ok_iff.2 ha, parsePart_eq_ok_iff.2 hb]
  rfl

theorem parse_of_rejects (h : Rejects token f) : parse token = .error f := by
  cases h with
  | noDot h => rw [parse, splitAt?_dot_eq_none_iff.2 h]
  | major h ha =>
    rw [parse_of_hasSegments h, parsePart_eq_error_iff.2 ⟨_, rfl, ha⟩]
    rfl
  | minor h ha hb =>
    rw [parse_of_hasSegments h, parsePart_eq_ok_iff.2 ha, parsePart_eq_error_iff.2 ⟨_, rfl, hb⟩]
    rfl

/-- Every token stands for a version or is rejected. -/
theorem denotes_or_rejects (token : String) :
    (∃ v, Denotes token v) ∨ ∃ f, Rejects token f := by
  by_cases hdot : '.' ∈ token.toList
  · obtain ⟨a, b, hs⟩ := exists_hasSegments_iff.2 hdot
    by_cases ha : ∃ n, IsNumeral a n
    · obtain ⟨major, ha⟩ := ha
      by_cases hb : ∃ n, IsNumeral b n
      · obtain ⟨minor, hb⟩ := hb
        exact .inl ⟨⟨major, minor⟩, denotes_iff.2 ⟨a, b, hs, ha, hb⟩⟩
      · obtain ⟨f, hf⟩ := exists_lacksWord_iff.2 hb
        exact .inr ⟨_, .minor hs ha hf⟩
    · obtain ⟨f, hf⟩ := exists_lacksWord_iff.2 ha
      exact .inr ⟨_, .major hs hf⟩
  · exact .inr ⟨_, .noDot hdot⟩

/-- **The tokens of a version.** -/
theorem parse_eq_ok_iff : parse token = .ok v ↔ Denotes token v := by
  refine ⟨fun h => ?_, parse_of_denotes⟩
  rcases denotes_or_rejects token with ⟨v', hv'⟩ | ⟨f, hf⟩
  · rw [parse_of_denotes hv'] at h
    exact Except.ok.inj h ▸ hv'
  · rw [parse_of_rejects hf] at h
    cases h

/-- **The tokens of no version.** -/
theorem parse_eq_error_iff : parse token = .error f ↔ Rejects token f := by
  refine ⟨fun h => ?_, parse_of_rejects⟩
  rcases denotes_or_rejects token with ⟨v, hv⟩ | ⟨f', hf'⟩
  · rw [parse_of_denotes hv] at h
    cases h
  · rw [parse_of_rejects hf'] at h
    exact Except.error.inj h ▸ hf'

/-! ### The wording -/

/-- How the message about a segment begins. -/
def Part.opening : Part → String
  | .major => "major component"
  | .minor => "minor component"

theorem exists_message_eq (part : Part) (segment : String) (fault : DecimalFault) :
    ∃ tail, (Fault.badPart part segment fault).message.toList = part.opening.toList ++ tail := by
  have hfront : part.label ++ " component '" = part.opening ++ " '" := by cases part <;> decide
  cases fault <;> simp only [Fault.message, hfront, String.toList_append, List.append_assoc] <;>
    exact ⟨_, rfl⟩

/-- The message names the segment that is at fault. -/
theorem isPrefix_message_iff {p part : Part} {segment : String} {fault : DecimalFault} :
    p.opening.toList <+: (Fault.badPart part segment fault).message.toList ↔ p = part := by
  obtain ⟨tail, htail⟩ := exists_message_eq part segment fault
  rw [htail]
  constructor
  · intro h
    have hlen : p.opening.toList.length = part.opening.toList.length := by
      cases p <;> cases part <;> decide
    have heq := (List.prefix_of_prefix_length_le h (List.prefix_append _ tail) hlen.le).eq_of_length hlen
    revert heq
    cases p <;> cases part <;> decide
  · rintro rfl
    exact List.prefix_append _ tail

theorem message_badPart_ne (part : Part) (segment : String) (fault : DecimalFault) :
    (Fault.badPart part segment fault).message ≠ "expected MAJOR.MINOR" := by
  intro h
  obtain ⟨tail, htail⟩ := exists_message_eq part segment fault
  have hfirst : (part.opening.toList ++ tail).head? = some 'm' := by cases part <;> rfl
  rw [← htail, h] at hfirst
  exact absurd hfirst (by decide)

/-- What a reason says of a token: that there is no dot, or else that the segment in front of it is no
numeral, or else that the segment behind it is none. -/
structure Explains (token reason : String) : Prop where
  noDot : reason = "expected MAJOR.MINOR" ↔ '.' ∉ token.toList
  major : Part.major.opening.toList <+: reason.toList ↔
    ∃ a b, HasSegments token a b ∧ ¬ ∃ n, IsNumeral a n
  minor : Part.minor.opening.toList <+: reason.toList ↔
    ∃ a b, HasSegments token a b ∧ (∃ n, IsNumeral a n) ∧ ¬ ∃ n, IsNumeral b n

/-- **A token that is rejected is told why.** -/
theorem Rejects.explains (h : Rejects token f) : Explains token f.message := by
  cases h with
  | noDot hdot =>
    have hno : ∀ a b, ¬ HasSegments token a b := fun a b hs =>
      hdot (exists_hasSegments_iff.1 ⟨a, b, hs⟩)
    refine ⟨iff_of_true rfl hdot, iff_of_false (by decide) ?_, iff_of_false (by decide) ?_⟩
    · rintro ⟨a, b, hs, -⟩
      exact hno a b hs
    · rintro ⟨a, b, hs, -⟩
      exact hno a b hs
  | @major a b fault hs ha =>
    have hnone : ¬ ∃ n, IsNumeral a n := exists_lacksWord_iff.1 ⟨fault, ha⟩
    refine ⟨iff_of_false (message_badPart_ne _ _ _) (not_not.2 (exists_hasSegments_iff.1 ⟨a, b, hs⟩)),
      iff_of_true (isPrefix_message_iff.2 rfl) ⟨a, b, hs, hnone⟩, iff_of_false ?_ ?_⟩
    · exact fun h => nomatch isPrefix_message_iff.1 h
    · rintro ⟨a', b', hs', ha', -⟩
      rw [← (hs.unique hs').1] at ha'
      exact hnone ha'
  | @minor a b n fault hs ha hb =>
    have hnone : ¬ ∃ n, IsNumeral b n := exists_lacksWord_iff.1 ⟨fault, hb⟩
    refine ⟨iff_of_false (message_badPart_ne _ _ _) (not_not.2 (exists_hasSegments_iff.1 ⟨a, b, hs⟩)),
      iff_of_false ?_ ?_, iff_of_true (isPrefix_message_iff.2 rfl) ⟨a, b, hs, ⟨n, ha⟩, hnone⟩⟩
    · exact fun h => nomatch isPrefix_message_iff.1 h
    · rintro ⟨a', b', hs', ha'⟩
      rw [← (hs.unique hs').1] at ha'
      exact ha' ⟨n, ha⟩

/-- A rejected token is part of the error. -/
theorem parseVersion_eq_error_iff {e : BagError} :
    Declaration.parseVersion token = .error e ↔
      ∃ f, Rejects token f ∧ e = .malformedVersion none token f := by
  simp only [← parse_eq_error_iff, Declaration.parseVersion]
  cases parse token <;> simp [eq_comm]

/-- **The grammar of versions.** A token stands for the version that its two numerals tell, whatever
follows a second dot. Any other token is reported whole, with the first thing that is wrong with it. The
token of a version stands for this version, so that it may take the place of any token of it. -/
theorem parse_grammar (token : String) :
    (∀ v, parse token = .ok v ↔ Denotes token v) ∧
    (∀ f, parse token = .error f ↔ Rejects token f) ∧
    (∀ e, Declaration.parseVersion token = .error e ↔
      ∃ f, Rejects token f ∧ e = .malformedVersion none token f) ∧
    (∀ f, Rejects token f → Explains token f.message) ∧
    (∀ v : Version, parse v.text = .ok v) ∧
    ((parse token).bind fun v => parse v.text) = parse token := by
  refine ⟨fun _ => parse_eq_ok_iff, fun _ => parse_eq_error_iff, fun _ => parseVersion_eq_error_iff,
    fun _ => Rejects.explains, parse_text, ?_⟩
  cases parse token with
  | error f => rfl
  | ok v => exact parse_text v

/-- A sign does not belong to a numeral, and of the segment behind the second dot nothing is said. -/
theorem parse_grammar_signed :
    Rejects "007.+1.x" (.badPart .minor "+1" .notDigits) ∧
      Explains "007.+1.x" "minor component '+1' is not a non-negative integer" := by
  have h : Rejects "007.+1.x" (.badPart .minor "+1" .notDigits) :=
    .minor (a := ['0', '0', '7']) (b := ['+', '1']) (n := 7)
      ⟨by decide, by decide, .inr ⟨['x'], by decide⟩⟩ (readWord_eq_ok_iff.1 rfl)
      (.inr ⟨'+', by decide, by decide⟩)
  exact ⟨h, (parse_grammar "007.+1.x").2.2.2.1 _ h⟩

end ArchivalBag.Version

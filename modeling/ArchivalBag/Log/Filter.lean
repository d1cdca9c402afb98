import ArchivalBag.Config
import ArchivalBag.Log.Pattern
import ArchivalBag.Text.Alphanumeric
import ArchivalBag.Text.Bytes
import ArchivalBag.Text.Decimal
import ArchivalBag.Text.Split

/-!
# Which events are logged

A filter is a list of directives, each with a level for the events it is about. Of the directives
about an event the most specific one decides, which is the one with the longest target; of two with
the same target the one with more fields, and of two alike the later one. An event that no directive
is about is not logged.

A directive about spans, or about the values of their fields, decides nothing here, because no event
is inside a span.

* `Directive.parse?`: the directive a text stands for.
* `Filter.parse?`: the filter a text stands for.
* `Filter.enables`: an event is logged.
* `Filter.ofConfig`: the filter of a configuration.
-/

namespace ArchivalBag.Log

open Text

/-- How much a directive lets through: nothing, or the events of a level and of the more important
ones. -/
abbrev Threshold := Option Level

namespace Threshold

/-- The least number that events which are let through do not exceed. -/
def rank (t : Threshold) : Nat :=
  (t.map Level.rank).getD 0

/-- The number a threshold may be given by. -/
def number? (s : String) : Option Nat :=
  let ds := match s.toList with
    | '+' :: r => r
    | cs => cs
  (readWord ds).toOption.map UInt64.toNat

/-- The threshold of a text: a number up to five, or a name in letters of either case. -/
def parse? (s : String) : Option Threshold :=
  match number? s with
  | some n =>
    if n = 0 then some none
    else if n ≤ 5 then (Level.all[n - 1]?).map some
    else none
  | none =>
    if s.toLower = "off" then some none else (Level.ofName? s.toLower).map some

end Threshold

/-- A field that a directive asks for. -/
structure FieldPattern where
  name : String
  /-- The directive asks for a value too. -/
  hasValue : Bool
  deriving DecidableEq, Repr

/-- What a filter says about some events. -/
structure Directive where
  threshold : Threshold
  /-- What the targets of the events start with. -/
  target : Option String
  /-- The span the events are in. -/
  span : Option String
  /-- The fields the events have. -/
  fields : List FieldPattern
  deriving DecidableEq, Repr

namespace Directive

/-! ## Reading -/

/-- How far a directive is read; the numbers tell at which byte the part starts that is being read. -/
inductive Stage where
  | start
  /-- In a level or a target. -/
  | word (start : Nat)
  /-- In the name of a span. -/
  | span (start : Nat)
  /-- In a field. -/
  | field (start : Nat)
  /-- Behind the fields. -/
  | fieldsEnd
  /-- Behind the span. -/
  | spanEnd
  /-- In a level behind an equals sign. -/
  | level (start : Nat)

/-- A directive in the making. -/
structure Draft where
  stage : Stage
  /-- How many bytes are read. -/
  length : Nat
  directive : Directive

/-- A character that a directive may start with. -/
def startsWord (c : Char) : Bool :=
  isAlphanumeric c || c == '-' || c == ':' || c == '_'

/-- A number of digits, a point and more digits, of which some may be left out. -/
def isDecimal (cs : List Char) : Bool :=
  let rest := cs.dropWhile Char.isDigit
  let fraction := (dropFront? ['.'] rest).map (·.takeWhile Char.isDigit)
  let digits := cs.takeWhile Char.isDigit ++ fraction.getD []
  let exponent := match fraction with
    | none => rest
    | some ds => rest.drop (ds.length + 1)
  !digits.isEmpty &&
    (match exponent with
    | [] => true
    | e :: r =>
      let ds := match r with
        | '+' :: t => t
        | '-' :: t => t
        | t => t
      (e == 'e' || e == 'E') && !ds.isEmpty && ds.all Char.isDigit)

/-- A number with a plus sign in front. -/
def isSigned : List Char → Bool
  | '+' :: r =>
    isDecimal r || ["inf", "infinity", "nan"].contains (String.ofList (r.map Char.toLower))
  | _ => false

/-- A field may be asked for with this value: a pattern, or a number that is no pattern because of its
sign. A value ends at a second equals sign. -/
def isValue (cs : List Char) : Bool :=
  let value := cs.takeWhile (· != '=')
  Pattern.isWellFormed value || isSigned value

/-- The field of a text, which may not be empty. -/
def field? (cs : List Char) : Option FieldPattern :=
  match cs with
  | [] => none
  | _ =>
    match splitAt? (· == '=') cs with
    | none => some ⟨String.ofList cs, false⟩
    | some (name, value) => if isValue value then some ⟨String.ofList name, true⟩ else none

/-- The draft of the text `whole` with one more character. -/
def Draft.step? (whole : List Char) (d : Draft) (c : Char) : Option Draft :=
  let after := d.length + c.utf8Size
  let part (start : Nat) := (sliceBytes? start d.length whole).map String.ofList
  let go (stage : Stage) (e : Directive) : Draft := ⟨stage, after, e⟩
  let e := d.directive
  match d.stage with
  | .start =>
    if c = '[' then some (go (.span after) e)
    else if startsWord c then some (go (.word d.length) e)
    else none
  | .word start =>
    if c = '=' then (part start).map fun t => go (.level after) { e with target := some t }
    else if c = '[' then (part start).map fun t => go (.span after) { e with target := some t }
    else some (go (.word start) e)
  | .span start =>
    if c = ']' then (part start).map fun t => go .spanEnd { e with span := some t }
    else if c = '\x7b' then
      (part start).map fun t =>
        go (.field after) { e with span := if t.isEmpty then none else some t }
    else some (go (.span start) e)
  | .field start =>
    if c = '\x7d' then
      ((sliceBytes? start d.length whole).bind field?).map fun f =>
        go .fieldsEnd { e with fields := e.fields ++ [f] }
    else some (go (.field start) e)
  | .fieldsEnd => if c = ']' then some (go .spanEnd e) else none
  | .spanEnd => if c = '=' then some (go (.level after) e) else none
  | .level start => some (go (.level start) e)

/-- The directive of a draft of the text `whole`, if it may end here. A word alone is a level if it
names one, else a target of which everything is let through. -/
def Draft.finish? (whole : List Char) (d : Draft) : Option Directive :=
  match d.stage with
  | .word start => do
    let word := String.ofList (← dropBytes? start whole)
    match Threshold.parse? word with
    | some t => pure { d.directive with threshold := t }
    | none => pure { d.directive with target := some word }
  | .level start => do
    let word := String.ofList (← dropBytes? start whole)
    if word.isEmpty then pure d.directive
    else
      let t ← Threshold.parse? word
      pure { d.directive with threshold := t }
  | .spanEnd => some d.directive
  | _ => none

/-- A directive of which nothing is known yet. -/
def blank : Directive where
  threshold := some .trace
  target := none
  span := none
  fields := []

/-- The directive a text stands for. It is judged by the text without the blanks around it, but its
parts are taken from the same bytes of the text as it is given, and the last one up to its end; so
a blank in front shifts them all. -/
def parse? (cs : List Char) : Option Directive :=
  ((trim cs).foldlM (Draft.step? cs) ⟨.start, 0, blank⟩).bind (Draft.finish? cs)

/-! ## Use -/

/-- The directive is about events as such. -/
def isStatic (d : Directive) : Bool :=
  d.span.isNone && d.fields.all fun f => !f.hasValue

/-- The fields of every event: its message. -/
def eventFields : List String :=
  ["message"]

/-- The directive is about events with the given target. -/
def covers (d : Directive) (target : String) : Bool :=
  d.isStatic &&
    (match d.target with
    | none => true
    | some front => front.toList.isPrefixOf target.toList) &&
    d.fields.all fun f => eventFields.contains f.name

/-- How specific a directive is. -/
def specificity (d : Directive) : Nat × Nat :=
  ((d.target.map fun t => t.utf8ByteSize + 1).getD 0, d.fields.length)

/-- One directive is at least as specific as another one. -/
def asSpecific (d e : Directive) : Bool :=
  e.specificity.1 < d.specificity.1 ||
    (e.specificity.1 == d.specificity.1 && e.specificity.2 ≤ d.specificity.2)

end Directive

/-- A filter. -/
structure Filter where
  directives : List Directive
  deriving DecidableEq, Repr

namespace Filter

/-- The directive that lets errors through. -/
def errorsOnly : Directive :=
  { Directive.blank with threshold := some .error }

/-- The filter a text stands for: directives with commas between them. A text without directives lets
errors through. -/
def parse? (s : String) : Option Filter := do
  let pieces := (splitBy (· == ',') s.toList).filter fun p => !p.isEmpty
  let ds ← pieces.mapM Directive.parse?
  pure ⟨if ds.isEmpty then [errorsOnly] else ds⟩

/-- The directive that decides about events with the given target. -/
def deciding? (f : Filter) (target : String) : Option Directive :=
  (f.directives.filter fun d => d.covers target).foldl
    (fun best d =>
      match best with
      | none => some d
      | some b => if d.asSpecific b then some d else some b)
    none

/-- An event with the given level and target is logged. -/
def lets (f : Filter) (level : Level) (target : String) : Bool :=
  (f.deciding? target).any fun d => decide (level.rank ≤ d.threshold.rank)

/-- An event is logged. -/
def enables (f : Filter) (e : Event) : Bool :=
  f.lets e.level e.target

/-- What the targets of all events start with. -/
def ownTarget : String := "bagit"

/-- The filter of a configuration. -/
def ofConfig (c : Config) : Filter where
  directives := [{ Directive.blank with
    target := some ownTarget, threshold := some c.effectiveLevel }]

/-- The written form of the filter of a configuration. -/
def textOfConfig (c : Config) : String :=
  ownTarget ++ "=" ++ c.effectiveLevel.name

/-- The filter in use: the one the environment asks for, if it asks for one in a form that can be
read, else the one of the configuration. -/
def choose (c : Config) (asked : Option String) : Filter :=
  (asked.bind parse?).getD (ofConfig c)

end Filter

end ArchivalBag.Log

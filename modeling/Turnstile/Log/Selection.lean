import Turnstile.Log.Line
import Turnstile.Log.Pattern
import Turnstile.Text.Alphanumeric
import Turnstile.Text.Order
import Turnstile.Text.Utf8
/-!
  Which log lines are shown.

  A selection is a list of rules: for the parts of the program whose name begins in a certain way,
  how important a line must be.  A rule may be for lines with a certain field only.  The rule with
  the longest beginning decides, of these one that asks for a field, and of two equal rules the
  later one.  Rules for spans, or for the values of fields in spans, say nothing about lines outside
  of spans.

  In a text, rules are separated by commas.  A rule is a level for everything, or has the form
  `target[span{field=pattern}]=level`, of which the brackets with what they hold and the level may
  be missing, and the target too if there are brackets.  The first rule that cannot be read decides
  on the whole text.
-/

namespace Turnstile

/-- What a line must have a field for. -/
structure FieldTest where
  name : String
  /-- What the value must match. -/
  pattern : Option (List Char)
  deriving DecidableEq, Repr

/-- How important a line must be, for the parts of the program whose name begins with `target`. -/
structure LogRule where
  target : List Char
  /-- The span that a line must be in. -/
  span : Option (List Char)
  /-- The field that a line must have. -/
  field : Option FieldTest
  /-- The rank up to which lines are shown; none at rank zero. -/
  rank : Nat
  deriving DecidableEq, Repr

namespace LogRule

open Text

/-- The rule for everything. -/
def always (rank : Nat) : LogRule := ⟨[], none, none, rank⟩

/-- The rank that a level has, by name in any case or by number. -/
def rank? (t : List Char) : Option Nat :=
  match numeral 6 t with
  | .ok rank => some rank
  | .error _ =>
    [("off", 0), ("error", 1), ("warn", 2), ("info", 3), ("debug", 4), ("trace", 5)].findSome?
      fun (name, rank) => if String.ofList (lower t) = name then some rank else none

/-! ## Reading a rule -/

/-- Why a rule cannot be read. -/
inductive Fault where
  /-- It is no rule. -/
  | unreadable
  /-- A part of it would begin or end inside of a character. -/
  | torn
  deriving DecidableEq, Repr

/-- The characters that the first `n` bytes of a text make up, and the text after them. -/
def splitBytes? (n : Nat) (t : List Char) : Option (List Char × List Char) :=
  match n, t with
  | 0, t => some ([], t)
  | _ + 1, [] => some ([], [])
  | n + 1, c :: r =>
    if c.utf8Size ≤ n + 1 then
      (splitBytes? (n + 1 - c.utf8Size) r).map fun (front, rest) => (c :: front, rest)
    else none

/-- The part of a text from byte `i` to byte `j`. -/
def part (t : List Char) (i j : Nat) : Except Fault (List Char) :=
  match (splitBytes? i t).bind fun (_, rest) => splitBytes? (j - i) rest with
  | some (p, _) => .ok p
  | none => .error .torn

/-- What a rule begins with: the name of a part of the program, or a level. -/
def startsRule (c : Char) : Bool := c ∈ ['-', ':', '_'] || isAlphanumeric c

/-- The test that a text between braces denotes. -/
def fieldTest (t : List Char) : Except Fault FieldTest :=
  match cut '=' t with
  | none => if t.isEmpty then .error .unreadable else .ok ⟨String.ofList t, none⟩
  | some (name, rest) =>
    let pattern := before '=' rest
    if Pattern.isReadable pattern then .ok ⟨String.ofList name, some pattern⟩
    else .error .unreadable

/-- Which part of a rule is being read, and at which byte it begins. -/
inductive Part where
  | start
  | target
  | span (from_ : Nat)
  | field (from_ : Nat)
  | fieldEnd
  | spanEnd
  | level (from_ : Nat)
  deriving DecidableEq, Repr

/-- Reads the character at byte `i` of a rule.  The parts are cut out of `whole`. -/
def step (whole : List Char) (s : LogRule × Part) (c : Char) (i : Nat) :
    Except Fault (LogRule × Part) := do
  let (r, p) := s
  match p with
  | .start =>
    if c = '[' then pure (r, .span (i + 1))
    else if startsRule c then pure (r, .target)
    else throw .unreadable
  | .target =>
    if c = '=' then pure ({ r with target := ← part whole 0 i }, .level (i + 1))
    else if c = '[' then pure ({ r with target := ← part whole 0 i }, .span (i + 1))
    else pure s
  | .span k =>
    if c = ']' then pure ({ r with span := some (← part whole k i) }, .spanEnd)
    else if c = '\x7b' then
      let name ← part whole k i
      pure ({ r with span := if name.isEmpty then none else some name }, .field (i + 1))
    else pure s
  | .field k =>
    if c = '\x7d' then
      pure ({ r with field := some (← fieldTest (← part whole k i)) }, .fieldEnd)
    else pure s
  | .fieldEnd => if c = ']' then pure (r, .spanEnd) else throw .unreadable
  | .spanEnd => if c = '=' then pure (r, .level (i + 1)) else throw .unreadable
  | .level _ => pure s

/-- Reads the characters of a rule from byte `i` on. -/
def steps (whole : List Char) (s : LogRule × Part) (i : Nat) :
    List Char → Except Fault (LogRule × Part)
  | [] => .ok s
  | c :: rest => do steps whole (← step whole s c i) (i + c.utf8Size) rest

/-- The rule that is left when the text ends.  A missing level is the least important one. -/
def finish (whole : List Char) (s : LogRule × Part) : Except Fault LogRule := do
  let (r, p) := s
  match p with
  | .target =>
    match rank? whole with
    | some rank => pure { r with rank }
    | none => pure { r with target := whole }
  | .level k =>
    let level ← part whole k (encode whole).length
    if level.isEmpty then pure r
    else match rank? level with
      | some rank => pure { r with rank }
      | none => throw .unreadable
  | .spanEnd => pure r
  | _ => throw .unreadable

/-- The rule that a text denotes.  It is read without the blanks around it; but its parts are cut
out of the text with them, at the bytes where they would be without. -/
def read (t : List Char) : Except Fault LogRule := do
  finish t (← steps t (always 5, .start) 0 (trim t))

/-! ## Applying rules -/

/-- Whether a rule says something about a line outside of spans. -/
def applies (r : LogRule) (l : LogLine) : Bool :=
  r.span.isNone && r.target.isPrefixOf l.target.toList &&
    match r.field with
    | none => true
    | some f => f.pattern.isNone && f.name ∈ "message" :: l.fields.map (·.1)

/-- Whether the rule `a` gives way to `b`, where both apply to a line. -/
def givesWay (a b : LogRule) : Bool :=
  if a.target.length ≠ b.target.length then a.target.length < b.target.length
  else match a.field, b.field with
    | none, _ => true
    | some _, none => false
    | some f, some g => listedBefore f.name.toList g.name.toList

end LogRule

namespace LogSelection

open Text

/-- Shows lines that are at least informative. -/
def standard : List LogRule := [.always 3]

/-- The selection that a text denotes.  A text without rules shows nothing. -/
def parse (s : String) : Except LogRule.Fault (List LogRule) :=
  ((split ',' s.toList).filter (!·.isEmpty)).mapM LogRule.read

/-- The selection of an optional text.  Where nobody has said what can be read, the standard one is
used; but there is none where a rule is torn. -/
def ofText? (s : Option String) : Option (List LogRule) :=
  match s.map parse with
  | none | some (.error .unreadable) => some standard
  | some (.error .torn) => none
  | some (.ok rules) => some rules

/-- The rule that decides on a line. -/
def decisive? (rules : List LogRule) (l : LogLine) : Option LogRule :=
  (rules.filter (·.applies l)).foldl
    (fun best r => some (match best with
      | none => r
      | some b => if b.givesWay r then r else b)) none

/-- Whether a line is shown. -/
def shows (rules : List LogRule) (l : LogLine) : Bool :=
  (decisive? rules l).any fun r => l.level.rank ≤ r.rank

example : (parse "info,gateway::routes=WARN").toOption.map (fun r =>
    [shows r ⟨.info, "gateway::routes", "", []⟩, shows r ⟨.info, "gateway", "", []⟩]) =
    some [false, true] := by decide +kernel
example : (parse "warn,gateway[\x7bport\x7d]=02").toOption.map (fun r =>
    [shows r ⟨.warn, "gateway", "", [("port", .number 7)]⟩, shows r ⟨.info, "gateway", "", []⟩]) =
    some [true, false] := by decide +kernel
example : (LogRule.read "a[b\x7bc=d\x7d]=0".toList).toOption =
    some ⟨['a'], some ['b'], some ⟨"c", some ['d']⟩, 0⟩ := by decide +kernel
example : ofText? (some " a=info") = some standard ∧ ofText? (some "(a)") = some standard := by
  decide +kernel
example : ofText? (some "\u3000a=") = none ∧ ofText? (some ",,") = some [] := by decide +kernel

end LogSelection

end Turnstile

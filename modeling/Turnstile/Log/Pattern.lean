import Turnstile.Text.Alphanumeric
import Turnstile.Text.Blank
import Turnstile.Text.Numeral
import Turnstile.Text.Split
/-!
  Patterns for the values of fields.

  A pattern is a regular expression, and here it only matters whether a text is one: what can be
  repeated stands before each repetition, brackets are in pairs, and a backslash is followed by
  something that has a meaning.  `Pattern.next` reads one character.

  A pattern speaks of characters, or of bytes where a flag says so.  There are no tables of letters,
  digits and blanks outside ASCII, so a class such as `\d`, an edge of a word and cases that do not
  matter are for bytes only.  In turn, nothing that is read as bytes may match a part of a
  character.

  Numbers with a sign are values too.
-/

namespace Turnstile.Pattern

open Text

/-! ## Places in a pattern -/

/-- What the flags of a pattern say. -/
structure Mode where
  /-- Upper and lower case are the same. -/
  folded : Bool
  /-- Blanks do not count, and neither does the rest of a line after `#`. -/
  spaced : Bool
  /-- The pattern is about bytes. -/
  bytewise : Bool
  deriving DecidableEq, Repr

/-- Whether letters have to be looked up in tables that there are not. -/
def Mode.needsCases (m : Mode) : Bool := m.folded && !m.bytewise

/-- What stands before a place inside square brackets: nothing from which a range could go on, a
class, from which none may go on, or a character. -/
inductive Before where
  | nothing
  | set
  | char (c : Char)
  deriving DecidableEq, Repr

/-- Where one character or class may stand: outside square brackets, inside so many of them, or
there as the end of a range that begins with a character. -/
inductive Spot where
  | outside
  | member (depth : Nat)
  | bound (depth : Nat) (first : Char)
  deriving DecidableEq, Repr

/-- Where the reading of a pattern stands. -/
inductive Place where
  /-- Outside square brackets, after something that can be repeated or not. -/
  | plain (repeatable : Bool)
  /-- After a round bracket. -/
  | group
  /-- After a round bracket and a question mark. -/
  | groupKind
  /-- Before the angle bracket of the name of a group. -/
  | groupLabel
  /-- In the name of a group, which is given backwards. -/
  | groupName (name : List Char)
  /-- In the flags of a group, which are given backwards. -/
  | flags (seen : List Char)
  /-- After a square bracket, the sign behind it that turns the meaning round, and minus signs. -/
  | bracket (depth : Nat) (turned dashed : Bool)
  /-- Inside square brackets. -/
  | inside (depth : Nat) (before : Before)
  /-- Before the second sign of an operator on classes. -/
  | operator (depth : Nat)
  /-- Inside square brackets, after the minus sign of a range. -/
  | range (depth : Nat) (first : Char)
  /-- After a backslash. -/
  | escape (spot : Spot)
  /-- Before the digits of a code point, or of a byte. -/
  | digits (spot : Spot) (left value : Nat) (byte : Bool)
  /-- After `#`, until the line ends. -/
  | comment (back : Place)
  deriving DecidableEq, Repr

/-- Where the reading stands, and what is known there. -/
structure State where
  mode : Mode
  /-- The mode before each round bracket that is open. -/
  outer : List Mode
  /-- The names of the groups so far. -/
  names : List (List Char)
  place : Place
  deriving DecidableEq, Repr

/-! ## Reading a pattern -/

/-- The place after a character, or after a class.  Inside square brackets bytes are ASCII
characters; a range must not go down. -/
def settle (m : Mode) (spot : Spot) (item : Option Char) : Option Place :=
  if spot ≠ .outside && m.bytewise && item.any (0x80 ≤ ·.toNat) then none
  else match spot, item with
    | .outside, _ => if m.needsCases then none else some (.plain true)
    | .member depth, some c => some (.inside depth (.char c))
    | .member depth, none => some (.inside depth .set)
    | .bound depth first, some c => if first ≤ c then some (.inside depth .nothing) else none
    | .bound _ _, none => none

/-- A character outside square brackets that is no round bracket. -/
def nextPlain (m : Mode) (repeatable : Bool) (c : Char) : Option Place :=
  if c = '[' then if m.needsCases then none else some (.bracket 1 false false)
  else if c = '\\' then some (.escape .outside)
  else if c = '|' then some (.plain false)
  else if c ∈ ['*', '+', '?'] then if repeatable then some (.plain true) else none
  else if c = '\x7b' then none
  else if c = '.' then if m.bytewise then none else some (.plain true)
  else if c = '^' ∨ c = '$' then some (.plain true)
  else settle m .outside (some c)

/-- The first character of a text that counts. -/
def ahead (m : Mode) (t : List Char) : Option Char :=
  (if m.spaced then t.dropWhile isBlank else t).head?

/-- The names of the classes that are named between colons. -/
def classNames : List String :=
  ["alnum", "alpha", "ascii", "blank", "cntrl", "digit", "graph", "lower", "print", "punct",
    "space", "upper", "word", "xdigit"]

/-- Whether a text after a square bracket names all characters outside a class. -/
def namesComplement (t : List Char) : Bool :=
  classNames.any fun name => (":^".toList ++ name.toList ++ ":]".toList).isPrefixOf t

/-- A character inside square brackets, given the text after it. -/
def nextInside (m : Mode) (depth : Nat) (before : Before) (c : Char) (rest : List Char) :
    Option Place :=
  if c = ']' then some (if depth = 1 then .plain true else .inside (depth - 1) .nothing)
  else if c = '[' then
    if m.bytewise && namesComplement rest then none else some (.bracket (depth + 1) false false)
  else if c = '\\' then some (.escape (.member depth))
  else if c = '-' && before ≠ .nothing && ahead m rest ∉ [some ']', some '-'] then
    match before with
    | .char first => some (.range depth first)
    | _ => none
  else if c ∈ ['&', '-', '~'] && rest.head? = some c then some (.operator depth)
  else settle m (.member depth) (some c)

/-- A character right after a square bracket.  A square bracket that closes stands for itself
there. -/
def nextBracket (m : Mode) (depth : Nat) (turned dashed : Bool) (c : Char) (rest : List Char) :
    Option Place :=
  if c = '^' && !turned && !dashed then
    if m.bytewise then none else some (.bracket depth true false)
  else if c = '-' then some (.bracket depth turned true)
  else if c = ']' && !dashed then some (.inside depth .nothing)
  else nextInside m depth .nothing c rest

/-- The controls that have a letter. -/
def controlLetters : List (Char × Char) :=
  [('a', '\x07'), ('f', '\x0c'), ('t', '\t'), ('n', '\n'), ('r', '\r'), ('v', '\x0b')]

/-- A character after a backslash: a control, a code point, a class or an edge has a letter, and a
sign stands for itself. -/
def nextEscape (m : Mode) (spot : Spot) (c : Char) : Option Place :=
  match controlLetters.lookup c with
  | some control => settle m spot (some control)
  | none =>
    if c ∈ ['A', 'z'] then if spot = .outside then some (.plain true) else none
    else if c ∈ ['b', 'B', '<', '>'] then
      if spot = .outside && m.bytewise then some (.plain true) else none
    else if c ∈ ['d', 's', 'w'] then if m.bytewise then settle m spot none else none
    else if c = 'x' then some (.digits spot 2 0 true)
    else if c = 'u' then some (.digits spot 4 0 false)
    else if c = 'U' then some (.digits spot 8 0 false)
    else if c.toNat < 0x80 && !c.isAlphanum then settle m spot (some c)
    else none

/-- A digit of a code point, of which so many are left.  A byte must not be a part of a
character. -/
def nextDigit (m : Mode) (spot : Spot) (left value : Nat) (byte : Bool) (c : Char) :
    Option Place := do
  let value := value * 16 + (← hexValue? c)
  if 1 < left then some (.digits spot (left - 1) value byte)
  else if !value.isValidChar || (byte && m.bytewise && 0x80 ≤ value) then none
  else settle m spot (some (Char.ofNat value))

/-- The letters that are flags. -/
def isFlag (c : Char) : Bool := c ∈ "imsUuRx".toList

/-- The mode that flags make of a mode; those after a minus sign are taken back. -/
def Mode.set (m : Mode) (flags : List Char) : Mode :=
  let on := before '-' flags
  let off := flags.drop on.length
  ⟨'i' ∈ on || (m.folded && 'i' ∉ off), 'x' ∈ on || (m.spaced && 'x' ∉ off),
    'u' ∈ off || (m.bytewise && 'u' ∉ on)⟩

/-- Whether blanks and comments may stand at a place. -/
def Place.isOpen : Place → Bool
  | plain _ | group | bracket .. | inside .. | range .. | digits .. => true
  | _ => false

/-- The state after one more character, given the text after it. -/
def next (s : State) (c : Char) (rest : List Char) : Option State :=
  let m := s.mode
  let go := fun (p : Place) => some { s with place := p }
  let plain := fun (repeatable : Bool) =>
    if c = '(' then some { s with outer := m :: s.outer, place := .group }
    else if c = ')' then
      match s.outer with
      | [] => none
      | mode :: outer => some { s with mode, outer, place := .plain true }
    else (nextPlain m repeatable c).bind go
  if m.spaced && s.place.isOpen && isBlank c then some s
  else if m.spaced && s.place.isOpen && c = '#' then go (.comment s.place)
  else match s.place with
    | .plain repeatable => plain repeatable
    | .group => if c = '?' then go .groupKind else plain false
    | .groupKind =>
      if c = 'P' then go .groupLabel
      else if c = '<' then go (.groupName [])
      else if c = ':' then go (.plain false)
      else if isFlag c ∨ c = '-' then go (.flags [c])
      else none
    | .groupLabel => if c = '<' then go (.groupName []) else none
    | .groupName name =>
      if c = '>' then
        if name.isEmpty || s.names.contains name then none
        else some { s with names := name :: s.names, place := .plain false }
      else if c = '_' ∨ (isAlphanumeric c ∧ !(name.isEmpty && c.isDigit)) ∨
          (!name.isEmpty ∧ c ∈ ['.', '[', ']']) then go (.groupName (c :: name))
      else none
    | .flags seen =>
      if (isFlag c ∨ c = '-') ∧ c ∉ seen then go (.flags (c :: seen))
      else if seen.head? = some '-' then none
      else if c = ':' then some { s with mode := m.set seen.reverse, place := .plain false }
      else if c = ')' then
        some { s with mode := m.set seen.reverse, outer := s.outer.tail, place := .plain false }
      else none
    | .bracket depth turned dashed => (nextBracket m depth turned dashed c rest).bind go
    | .inside depth before => (nextInside m depth before c rest).bind go
    | .operator depth => go (.inside depth .nothing)
    | .range depth first =>
      if c = '\\' then go (.escape (.bound depth first))
      else (settle m (.bound depth first) (some c)).bind go
    | .escape spot => (nextEscape m spot c).bind go
    | .digits spot left value byte => (nextDigit m spot left value byte c).bind go
    | .comment back => go (if c = '\n' then back else .comment back)

/-- Whether a pattern may end in a state. -/
def State.isFinal (s : State) : Bool :=
  s.outer.isEmpty && match s.place with
    | .plain _ | .comment (.plain _) => true
    | _ => false

/-- Whether a text completes a pattern that has been read up to a state. -/
def completes (s : State) : List Char → Bool
  | [] => s.isFinal
  | c :: rest =>
    match next s c rest with
    | some s => completes s rest
    | none => false

/-- Whether a text is a regular expression. -/
def isRegular (t : List Char) : Bool := completes ⟨⟨false, false, false⟩, [], [], .plain false⟩ t

/-! ## Numbers -/

/-- Whether a text is a line of digits, with at most one point among them. -/
def isDecimal (t : List Char) : Bool :=
  let digits := t.filter (· ≠ '.')
  !digits.isEmpty && digits.all Char.isDigit && t.length ≤ digits.length + 1

/-- Whether a text is a line of digits, with a sign or not. -/
def isExponent : List Char → Bool
  | [] => false
  | c :: r => if c ∈ ['+', '-'] then !r.isEmpty && r.all Char.isDigit else (c :: r).all Char.isDigit

/-- Whether a text without its sign is a number: digits with or without a point among them and
perhaps an exponent, or one of the values beyond all numbers. -/
def isNumber (t : List Char) : Bool :=
  let t := lower t
  t == "inf".toList || t == "infinity".toList || t == "nan".toList ||
    match cut 'e' t with
    | some (mantissa, exponent) => isDecimal mantissa && isExponent exponent
    | none => isDecimal t

/-- Whether a text can be read as a value or a pattern for values. -/
def isReadable (t : List Char) : Bool :=
  isRegular t || (t.head? = some '+' && isNumber t.tail)

example : ["", "a|b*", "(?:a+)??", "(?P<x>[^]a-z-]|\\.)", "[[:alpha:]x]", "(?-u:\\d)\\x41",
    "+1.5e3", "[--!]", "[a--b&&c]", "[]-!]", "(?x) a # (", "(?i)"].all (isReadable ·.toList) =
    true := by decide +kernel
example : ["*", "(", "a)", "[a", "[z-a]", "a\x7b2", "\\", "\\q", "(?=a)", "+", "a|+", "\\d",
    "(?i)a", "(?-u).", "(?<a>)(?<a>)", "[\\-z-a]", "(?i)*", "(?i-)", "\\ud800"].any
    (isReadable ·.toList) = false := by decide +kernel

end Turnstile.Pattern

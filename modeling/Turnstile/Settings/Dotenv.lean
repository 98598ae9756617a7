import Turnstile.Text.Alphanumeric
import Turnstile.Text.Blank
import Turnstile.Text.Split
/-!
  Files of variable definitions, `NAME=value` one to a line.

  A line may begin with `export`, and a comment begins with `#`.  Blanks at the ends of a line do
  not count.  In a value, single quotes keep what they hold as it is, double quotes keep it but for
  escapes and variables, and a quoted value may go on over several lines.  Outside quotes a space or
  a tab ends the value, and only a comment may follow.  `$NAME` and `${NAME}` outside single quotes
  stand for the value that a variable has by then.
-/

namespace Turnstile.Dotenv

open Text

/-! ## Lines -/

/-- Where the reading of a line stands: whether the line can end here. -/
inductive LineState where
  | plain
  | escape
  | blank
  | single
  | singleEscape
  | double
  | doubleEscape
  | comment
  deriving DecidableEq, Repr

/-- What a character outside quotes leads to. -/
def LineState.plainNext (c : Char) : LineState :=
  if c = '\\' then .escape else if c = '"' then .double else if c = '\'' then .single else .plain

/-- The state after one more character. -/
def LineState.next (s : LineState) (c : Char) : LineState :=
  match s with
  | .plain => if isBlank c && c ≠ '\n' && c ≠ '\r' then .blank else plainNext c
  | .blank => if c = '#' then .comment else plainNext c
  | .escape => .plain
  | .single => if c = '\\' then .singleEscape else if c = '\'' then .plain else .single
  | .singleEscape => .single
  | .double => if c = '\\' then .doubleEscape else if c = '"' then .plain else .double
  | .doubleEscape => .double
  | .comment => .comment

/-- The text up to a comment, and the state at its end. -/
def scan (s : LineState) : List Char → List Char × LineState
  | [] => ([], s)
  | c :: r =>
    match s.next c with
    | .comment => ([], .comment)
    | s' =>
      let (kept, last) := scan s' r
      (c :: kept, last)

/-- The lines of a text, each with its line feed. -/
def physicalLines : List Char → List (List Char)
  | [] => []
  | c :: r =>
    if c = '\n' then [c] :: physicalLines r
    else match physicalLines r with
      | [] => [[c]]
      | line :: lines => (c :: line) :: lines

/-- A line without its line feed, and the carriage return before it. -/
def chomp (t : List Char) : List Char :=
  match t.reverse with
  | '\n' :: '\r' :: r => r.reverse
  | '\n' :: r => r.reverse
  | _ => t

/-- Puts lines together until each can end, given what stands before them.  The outer `none` at the
end stands for text that can not end where the file does. -/
def joinLines (s : LineState) (before : List Char) : List (List Char) → List (Option (List Char))
  | [] => if s = .plain then [] else [none]
  | line :: rest =>
    let whole := before ++ line
    if (whole.dropWhile isBlank).head? = some '#' then some [] :: joinLines .plain [] rest
    else
      let (kept, last) := scan s line
      match last with
      | .comment => some (before ++ kept) :: joinLines .plain [] rest
      | .plain => some (chomp whole) :: joinLines .plain [] rest
      | last => joinLines last whole rest

/-- The lines of a file, put together.  A byte order mark at its beginning does not count. -/
def lines (file : String) : List (Option (List Char)) :=
  joinLines .plain [] (physicalLines (match file.toList with
    | '\ufeff' :: r => r
    | t => t))

/-! ## Values -/

/-- How a value is being read. -/
inductive ValueState where
  | bare
  | bareEscape
  | single
  | double
  | doubleEscape
  /-- After `$`: the name of a variable so far, within double quotes or not. -/
  | variable (quoted : Bool) (name : List Char)
  /-- The same after an opening brace. -/
  | braced (quoted : Bool) (name : List Char)
  /-- The value has ended. -/
  | ended

namespace ValueState

/-- The state outside a variable. -/
def outside (quoted : Bool) : ValueState := if quoted then double else bare

end ValueState

/-- What a character after a backslash stands for. -/
def unescape? (c : Char) : Option Char :=
  if c ∈ ['\\', '\'', '"', '$', ' '] then some c else if c = 'n' then some '\n' else none

/-- The value that a text denotes, where `lookup` gives the values of variables.  The name of a
variable that is not in braces consists of letters and numbers, and the character after it is taken
as it is. -/
def value? (lookup : String → List Char) (s : ValueState) : List Char → Option (List Char)
  | [] =>
    match s with
    | .bare | .bareEscape | .ended => some []
    | .variable false name => some (lookup (String.ofList name))
    | _ => none
  | c :: r =>
    match s with
    | .ended =>
      if c = ' ' ∨ c = '\t' then value? lookup .ended r else if c = '#' then some [] else none
    | .bareEscape => do
      let u ← unescape? c
      return u :: (← value? lookup .bare r)
    | .doubleEscape => do
      let u ← unescape? c
      return u :: (← value? lookup .double r)
    | .single =>
      if c = '\'' then value? lookup .bare r else (value? lookup .single r).map (c :: ·)
    | .variable quoted name =>
      if isAlphanumeric c then value? lookup (.variable quoted (name ++ [c])) r
      else if c = '\x7b' ∧ name = [] then value? lookup (.braced quoted []) r
      else if c = '$' then
        (value? lookup (.variable quoted []) r).map (lookup (String.ofList name) ++ ·)
      else (value? lookup (.outside quoted) r).map (lookup (String.ofList name) ++ c :: ·)
    | .braced quoted name =>
      if c = '\x7d' then
        (value? lookup (.outside quoted) r).map (lookup (String.ofList name) ++ ·)
      else value? lookup (.braced quoted (name ++ [c])) r
    | .double =>
      if c = '$' then value? lookup (.variable true []) r
      else if c = '"' then value? lookup .bare r
      else if c = '\\' then value? lookup .doubleEscape r
      else (value? lookup .double r).map (c :: ·)
    | .bare =>
      if c = '$' then value? lookup (.variable false []) r
      else if c = '\'' then value? lookup .single r
      else if c = '"' then value? lookup .double r
      else if c = '\\' then value? lookup .bareEscape r
      else if c = ' ' ∨ c = '\t' then value? lookup .ended r
      else (value? lookup .bare r).map (c :: ·)

/-! ## Definitions -/

/-- What the first character of a name may be. -/
def startsName (c : Char) : Bool := c.isAlpha || c = '_'

/-- What the other characters of a name may be. -/
def inName (c : Char) : Bool := c.isAlphanum || c = '_' || c = '.'

/-- A name and the text after it and after the blanks that follow it. -/
def name? (t : List Char) : Option (List Char × List Char) :=
  match t with
  | [] => none
  | c :: _ =>
    if startsName c then some (t.takeWhile inName, (t.dropWhile inName).dropWhile isBlank) else none

/-- The value after an equals sign. -/
def assigned? (lookup : String → List Char) (t : List Char) : Option (List Char) :=
  match t with
  | '=' :: r =>
    let text := r.dropWhile isBlank
    if text.isEmpty || text.head? = some '#' then some [] else value? lookup .bare text
  | _ => none

/-- The definition on a line that holds one. -/
def definition? (lookup : String → List Char) (t : List Char) : Option (String × String) := do
  let (first, rest) ← name? t
  let (name, rest) ←
    if first = "export".toList ∧ rest.head? ≠ some '=' then name? rest else some (first, rest)
  let value ← assigned? lookup rest
  pure (String.ofList name, String.ofList value)

/-- Whether a line says nothing. -/
def isVoid (line : List Char) : Bool :=
  let t := line.dropWhile isBlank
  t.isEmpty || t.head? = some '#'

/-- The definition on a line, if there can be one. -/
def onLine? (lookup : String → List Char) (line : List Char) : Option (String × String) :=
  definition? lookup (trim line)

example : lines "# first\nA=\"x\ny\" # c\nB=1" =
    [some [], some "A=\"x\ny\" ".toList, some "B=1".toList] := by decide
example : onLine? (fun _ => "v".toList)
    " export A='$x y'\"$\x7bN\x7d\\n\"$N- ".toList =
    some ("A", "$x yv\nv-") := by decide +kernel
example : onLine? (fun name => name.toList) "A=$b²-\u3000".toList = some ("A", "b²-") := by
  decide +kernel
example : onLine? (fun _ => []) "A=a b".toList = none := by decide

end Turnstile.Dotenv

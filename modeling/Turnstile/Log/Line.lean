import Turnstile.Text.Json
import Turnstile.Text.Quoted
/-!
  Log lines.

  A line has a level, the part of the program that it comes from, a message, and named values.  It
  is shown either as text, with the values after the message, or as one JSON object.  A text value
  is either shown as it is or, where its limits must be seen, quoted; in JSON this makes no
  difference.
-/

namespace Turnstile

/-- How important a line is. -/
inductive LogLevel where
  | error
  | warn
  | info
  | debug
  | trace
  deriving DecidableEq, Repr

namespace LogLevel

/-- The name of a level. -/
def name : LogLevel → String
  | error => "ERROR"
  | warn => "WARN"
  | info => "INFO"
  | debug => "DEBUG"
  | trace => "TRACE"

/-- How much is shown with a level: itself and all that is more important. -/
def rank : LogLevel → Nat
  | error => 1
  | warn => 2
  | info => 3
  | debug => 4
  | trace => 5

end LogLevel

/-- A value in a log line. -/
inductive LogValue where
  | shown (s : String)
  | quoted (s : String)
  | number (n : Nat)
  deriving DecidableEq, Repr

namespace LogValue

/-- A value as text. -/
def text : LogValue → String
  | shown s => s
  | quoted s => Text.quoted s
  | number n => toString n

/-- A value as JSON. -/
def json : LogValue → Json
  | shown s => .string s
  | quoted s => .string s
  | number n => .number n

end LogValue

/-- A log line. -/
structure LogLine where
  level : LogLevel
  /-- The part of the program that the line comes from. -/
  target : String
  message : String
  fields : List (String × LogValue)
  deriving DecidableEq, Repr

namespace LogLine

/-- A character of a message in text.  Those that a terminal takes for commands are written by their
codes. -/
def messageChar (c : Char) : List Char :=
  if c ∈ ['\x07', '\x08', '\x0c', '\x1b', '\x7f'] then
    ['\\', 'x', Nat.digitChar (c.toNat / 16), Nat.digitChar (c.toNat % 16)]
  else if 0x80 ≤ c.toNat ∧ c.toNat < 0xA0 then
    ['\\', 'u', '\x7b'] ++ Nat.toDigits 16 c.toNat ++ ['\x7d']
  else [c]

/-- A line as text. -/
def text (l : LogLine) : String :=
  s!"{l.level.name} {l.target}: " ++ String.ofList (l.message.toList.flatMap messageChar) ++
    String.join (l.fields.map fun (name, v) => s!" {name}={v.text}")

/-- The members of a line as a JSON object. -/
def members (l : LogLine) : List (String × Json) :=
  [("level", .string l.level.name),
   ("fields",
     .object (("message", .string l.message) :: l.fields.map fun (name, v) => (name, v.json))),
   ("target", .string l.target)]

/-- A line as JSON. -/
def json (l : LogLine) : Json := .object l.members

example : text ⟨.warn, "a::b", "Slow", [("route", .quoted "api"), ("ms", .number 7)]⟩ =
    "WARN a::b: Slow route=\"api\" ms=7" := by decide
example : text ⟨.error, "a", "\x1b[\u0085\t", [("x", .shown "\x1b")]⟩ =
    "ERROR a: \\x1b[\\u\x7b85\x7d\t x=\x1b" := by decide

end LogLine

end Turnstile

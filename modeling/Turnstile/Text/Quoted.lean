import Turnstile.Text.Numeral
import Turnstile.Text.Unprintable
/-!
  Quoted text, for messages that must show what a value is made of.

  A quoted text stands between double quotes.  Tab, line feed, carriage return, NUL, the double
  quote and the backslash have short escapes; every other character that is not printable is written
  as its code point, `\\u` with hexadecimal digits between braces.
-/

namespace Turnstile.Text

/-- Whether a character is written by its code point. -/
def needsCodePoint (c : Char) : Bool :=
  c.toNat < 0x20 || c.toNat == 0x7F || (0x80 ≤ c.toNat && isUnprintable c)

/-- A character as a quoted text shows it. -/
def quoteChar (c : Char) : List Char :=
  if c = '\x00' then ['\\', '0']
  else if c = '\t' then ['\\', 't']
  else if c = '\n' then ['\\', 'n']
  else if c = '\r' then ['\\', 'r']
  else if c = '"' then ['\\', '"']
  else if c = '\\' then ['\\', '\\']
  else if needsCodePoint c then ['\\', 'u', '\x7b'] ++ Nat.toDigits 16 c.toNat ++ ['\x7d']
  else [c]

/-- A text between double quotes, with escapes for what is not printable. -/
def quoted (s : String) : String := String.ofList ('"' :: s.toList.flatMap quoteChar ++ ['"'])

example : quoted "a\n\"b\"" = "\"a\\n\\\"b\\\"\"" := by decide
example : quoted "é\u0301\u007f" = "\"é\\u\x7b301\x7d\\u\x7b7f\x7d\"" := by decide +kernel

end Turnstile.Text

import Turnstile.Text.Numeral
/-!
  JSON documents and their compact text.

  An object keeps its members in the order in which they were given, and the text has no white space
  outside strings.  In a string, `"`, the backslash and the controls are escaped; all else is
  written as it is.
-/

namespace Turnstile

/-- A JSON document. -/
inductive Json where
  | null
  | bool (b : Bool)
  | number (n : Nat)
  | string (s : String)
  | array (items : List Json)
  | object (members : List (String × Json))

namespace Json

/-- A character as a JSON string shows it. -/
def escape (c : Char) : List Char :=
  if c = '"' then ['\\', '"']
  else if c = '\\' then ['\\', '\\']
  else if c = '\x08' then ['\\', 'b']
  else if c = '\t' then ['\\', 't']
  else if c = '\n' then ['\\', 'n']
  else if c = '\x0c' then ['\\', 'f']
  else if c = '\r' then ['\\', 'r']
  else if c.toNat < 0x20 then
    ['\\', 'u', '0', '0', Nat.digitChar (c.toNat / 16), Nat.digitChar (c.toNat % 16)]
  else [c]

/-- A string with its quotes. -/
def quote (s : String) : String := String.ofList ('"' :: s.toList.flatMap escape ++ ['"'])

mutual

/-- The compact text of a document. -/
def text : Json → String
  | null => "null"
  | bool b => if b then "true" else "false"
  | number n => toString n
  | string s => quote s
  | array items => "[" ++ String.intercalate "," (itemTexts items) ++ "]"
  | object members => "\x7b" ++ String.intercalate "," (memberTexts members) ++ "\x7d"

/-- The texts of the items of an array. -/
def itemTexts : List Json → List String
  | [] => []
  | j :: r => text j :: itemTexts r

/-- The texts of the members of an object. -/
def memberTexts : List (String × Json) → List String
  | [] => []
  | (name, j) :: r => (quote name ++ ":" ++ text j) :: memberTexts r

end

/-- The member of a document that has a name. -/
def member? (name : String) : Json → Option Json
  | object members => members.lookup name
  | _ => none

example : text (object [("a", array [number 1, null]), ("\n", string "é\u0001")]) =
    "\x7b\"a\":[1,null],\"\\n\":\"é\\u0001\"\x7d" := by rfl

end Json

end Turnstile

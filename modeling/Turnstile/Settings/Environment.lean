import Turnstile.Settings.Dotenv
import Turnstile.Text.Utf8
/-!
  The variables that a program is started with.

  A value is bytes; one that is no text counts as unset.  A file of definitions sets the variables
  that are not set yet.
-/

namespace Turnstile

/-- Variables with their values. -/
structure Environment where
  entries : List (String × Bytes)
  deriving DecidableEq, Repr

namespace Environment

open Text in
/-- The variables in a block of definitions, each of which ends with a zero byte. -/
def ofBlock (block : Bytes) : Environment :=
  ⟨(split '\x00' (ofOctets block)).filterMap fun entry => do
    let (name, value) ← cut '=' entry
    pure (← decode? (octets name), octets value)⟩

/-- The bytes of a variable. -/
def bytes? (e : Environment) (name : String) : Option Bytes :=
  (e.entries.find? fun v => v.1 == name).map (·.2)

/-- The text of a variable. -/
def text? (e : Environment) (name : String) : Option String := (e.bytes? name).bind Text.decode?

/-- Gives a variable a value, unless it has a text already. -/
def setDefault (e : Environment) (name value : String) : Environment :=
  match e.text? name with
  | some _ => e
  | none => ⟨(name, Text.bytes value) :: e.entries⟩

/-- The environment with the definitions on some lines.  They are read in order, so each can use the
ones before it, up to the first line that cannot be read. -/
def withLines (e : Environment) : List (Option (List Char)) → Environment
  | [] => e
  | none :: _ => e
  | some line :: rest =>
    if Dotenv.isVoid line then e.withLines rest
    else match Dotenv.onLine? (fun name => ((e.text? name).getD "").toList) line with
      | some (name, value) => (e.setDefault name value).withLines rest
      | none => e

/-- The environment with the definitions of a file. -/
def withFile (e : Environment) (file : String) : Environment := e.withLines (Dotenv.lines file)

example : ofBlock (Text.bytes "A=1\x00B=x=y\x00") =
    ⟨[("A", Text.bytes "1"), ("B", Text.bytes "x=y")]⟩ := by decide +kernel
example : (withFile ⟨[("A", Text.bytes "set")]⟩ "A=file\nB=$A-$B\nB=2\nC=\"$B\nD=1").entries =
    [("B", Text.bytes "set-"), ("A", Text.bytes "set")] := by decide +kernel

end Environment

end Turnstile

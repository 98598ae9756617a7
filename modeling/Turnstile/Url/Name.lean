import Turnstile.Text.Composition
import Turnstile.Text.Direction
import Turnstile.Text.Joining
import Turnstile.Text.Mark
import Turnstile.Text.Punycode
import Turnstile.Text.Split
import Turnstile.Url.Name.Table
/-!
  Names of hosts in any script.

  However a name is written, it has one form in ASCII.  Each character has a spelling, the spellings
  are composed, and dots divide the result into labels.  A label with characters outside ASCII is
  written in Punycode after `xn--`; a label that is written so already must denote one that would
  be.  A label must not begin with a mark, joiners stand only where they matter, and the labels of a
  name with text from right to left run in one direction each.
-/

namespace Turnstile.Url.Name

open Text

/-! ## Spelling -/

/-- The spelling of a character, if it may be used. -/
def spelling? (c : Char) : Option (List Char) :=
  if c.toNat < 0x80 then some [c.toLower]
  else if inRanges omittedRanges c then some []
  else if inRanges refusedRanges c then none
  else
    let n := c.toNat
    match shiftedSpellings.find? fun (lo, hi, step, _) =>
      lo ≤ n && n ≤ hi && (n - lo) % step == 0 with
    | some (lo, _, _, first) => some [Char.ofNat (n - lo + first)]
    | none => some ((wordOf? listedSpellings c).getD [c])

/-- A text as it is spelt in a name. -/
def spelt? (t : List Char) : Option (List Char) :=
  (t.mapM spelling?).map fun spellings => composed spellings.flatten

/-! ## Labels -/

/-- Whether a character is outside ASCII. -/
def isOutsideAscii (c : Char) : Bool := 0x80 ≤ c.toNat

/-- With what a label in Punycode begins. -/
def punycodeMark : List Char := "xn--".toList

/-- The longest text in Punycode that is read. -/
def longestPunycode : Nat := 2000

/-- The label that a spelt label denotes: itself, unless it is in Punycode. -/
def denoted? (label : List Char) : Option (List Char) :=
  match punycodeMark.isPrefixOf? label with
  | none => some label
  | some digits => do
    let name ←
      if digits.any isOutsideAscii || longestPunycode < digits.length then none
      else Punycode.decode? digits
    if name.any isOutsideAscii && spelt? name == some name then some name else none

/-- A spelt label in ASCII. -/
def inAscii (label : List Char) : List Char :=
  if label.any isOutsideAscii then punycodeMark ++ Punycode.encode label else label

/-- The longest label that is written in Punycode. -/
def longestLabel : Nat := 1000

/-- Whether a joiner may stand between two texts, of which the one before is given backwards: after
a mark that joins consonants, or, where it keeps letters from being joined, between letters that
would be. -/
def joinerFits (joiner : Char) (backwards rest : List Char) : Bool :=
  backwards.head?.any (markClass · = 9) ||
    (joiner = '\u200c' && joinsOn backwards && joinsBack rest)

/-- Whether all joiners in a text fit, given backwards what is before it. -/
def joinersFit (backwards : List Char) : List Char → Bool
  | [] => true
  | c :: rest =>
    (c ∉ ['\u200c', '\u200d'] || joinerFits c backwards rest) && joinersFit (c :: backwards) rest

/-- Whether a label that a name has or denotes is a proper one, apart from its direction. -/
def isProper (label : List Char) : Bool :=
  !label.any isOutsideAscii ||
    (!label.head?.any isMark && joinersFit [] label && label.length ≤ longestLabel)

/-! ## Names -/

/-- The form of a name in ASCII. -/
def ascii? (t : List Char) : Option (List Char) := do
  let labels := split '.' (← spelt? t)
  let denoted ← labels.mapM denoted?
  if denoted.all isProper && (!denoted.flatten.any turnsLeft || denoted.all isDirected) then
    some (['.'].intercalate (labels.map inAscii))
  else none

example : ascii? "B\u00fccher.Example".toList = some "xn--bcher-kva.example".toList := by
  decide +kernel
example : ascii? "xn--bcher-kva".toList = some "xn--bcher-kva".toList := by decide +kernel
example : ascii? "xn--a".toList = none ∧ ascii? "xn--abc-".toList = none := by decide +kernel
example : ascii? "\uff46\ufb01\u2460\u3002c".toList = some "ffi1.c".toList := by decide +kernel
example : ascii? "a\u200db".toList = none := by decide +kernel
example : ascii? "1.\u05d0".toList = none := by decide +kernel

end Turnstile.Url.Name

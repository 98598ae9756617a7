import Turnstile.Text.Composition.Table
/-!
  One form for texts that look alike.

  A letter with marks can be written as one character, or as a letter and the marks after it.
  `composed` gives the same text for all ways of writing it: every character is taken apart, the
  marks after a letter are put in the order of their classes, and what can be composed with the
  letter is.  A mark whose class has been passed over is too far from its letter.
-/

namespace Turnstile.Text

/-! ## Hangul -/

/-- How many syllables a leading consonant begins. -/
def syllablesPerLead : Nat := 21 * 28

/-- The parts of a Hangul syllable: a leading consonant, a vowel, and perhaps a trailing
consonant. -/
def syllableParts? (c : Char) : Option (List Char) :=
  let n := c.toNat - 0xAC00
  if 0xAC00 ≤ c.toNat ∧ n < 19 * syllablesPerLead then
    let tail := n % 28
    some (Char.ofNat (0x1100 + n / syllablesPerLead) ::
      Char.ofNat (0x1161 + n % syllablesPerLead / 28) ::
      (if tail = 0 then [] else [Char.ofNat (0x11A7 + tail)]))
  else none

/-- The syllable that two characters make: a leading consonant with a vowel, or a syllable without a
trailing consonant with one. -/
def syllable? (a b : Char) : Option Char :=
  let lead := a.toNat - 0x1100
  let vowel := b.toNat - 0x1161
  let pair := a.toNat - 0xAC00
  let tail := b.toNat - 0x11A7
  if 0x1100 ≤ a.toNat ∧ lead < 19 ∧ 0x1161 ≤ b.toNat ∧ vowel < 21 then
    some (Char.ofNat (0xAC00 + lead * syllablesPerLead + vowel * 28))
  else if 0xAC00 ≤ a.toNat ∧ pair < 19 * syllablesPerLead ∧ pair % 28 = 0 ∧
      0x11A7 < b.toNat ∧ tail < 28 then
    some (Char.ofNat (a.toNat + tail))
  else none

/-! ## Taking apart -/

/-- The two characters that a character is composed of. -/
def parts? (c : Char) : Option (List Char) :=
  compositions.findSome? fun (second, firsts) =>
    (firsts.find? fun (_, whole) => whole = c.toNat).map fun (first, _) =>
      [Char.ofNat first, Char.ofNat second]

/-- What stands for a character when it is taken apart once. -/
def apart? (c : Char) : Option (List Char) :=
  if c.toNat < 0xC0 then none
  else (syllableParts? c).orElse fun _ => (wordOf? replacements c).orElse fun _ => parts? c

/-- A character taken apart up to `n` times; only what comes first can be taken apart again. -/
def takeApart : Nat → Char → List Char
  | 0, c => [c]
  | n + 1, c =>
    match apart? c with
    | some (first :: rest) => takeApart n first ++ rest
    | _ => [c]

/-- A character taken apart: no character takes more than three steps. -/
def elements (c : Char) : List Char := takeApart 3 c

/-! ## Marks -/

/-- The class of a mark, and 0 for any other character. -/
def markClass (c : Char) : Nat := if c.toNat < 0x300 then 0 else (valueOf? markClasses c).getD 0

/-- Puts a character in front of a text whose marks are in order, behind those of lower classes. -/
def placeMark (c : Char) : List Char → List Char
  | [] => [c]
  | d :: rest =>
    if markClass d < markClass c ∧ markClass d ≠ 0 then d :: placeMark c rest else c :: d :: rest

/-- A text with the marks after each letter in the order of their classes. -/
def inMarkOrder (t : List Char) : List Char := t.foldr placeMark []

/-! ## Composing -/

/-- The character that two characters make.  None is made with a second one before the
first mark. -/
def whole? (a b : Char) : Option Char :=
  if b.toNat < 0x300 then none
  else (syllable? a b).orElse fun _ =>
    (compositions.find? fun (second, _) => second = b.toNat).bind fun (_, firsts) =>
      (firsts.find? fun (first, _) => first = a.toNat).map fun (_, whole) => Char.ofNat whole

/-- Composes what follows a letter with it.  `passed` are the marks, the last one first, that could
not be composed. -/
def composeOnto (letter : Char) (passed : List Char) : List Char → List Char
  | [] => letter :: passed.reverse
  | c :: rest =>
    let reachable := match passed with
      | [] => true
      | last :: _ => markClass last < markClass c
    match if reachable then whole? letter c else none with
    | some whole => composeOnto whole passed rest
    | none =>
      if markClass c = 0 then letter :: passed.reverse ++ composeOnto c [] rest
      else composeOnto letter (c :: passed) rest

/-- Composes the letters of a text with their marks. -/
def compose : List Char → List Char
  | [] => []
  | c :: rest => if markClass c = 0 then composeOnto c [] rest else c :: compose rest

/-- The form of a text in which all is composed that can be. -/
def composed (t : List Char) : List Char := compose (inMarkOrder (t.flatMap elements))

example : composed "a\u030a\u0323".toList = "\u1ea1\u030a".toList := by decide +kernel
example : composed "\u1112\u1161\u11ab".toList = "한".toList := by decide +kernel
example : composed "\u212b\uf900".toList = "Å豈".toList := by decide +kernel

end Turnstile.Text

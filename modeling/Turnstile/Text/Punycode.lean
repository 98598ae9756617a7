import Turnstile.Text.Split
/-!
  Names in any script, in ASCII letters, digits and hyphens.

  The ASCII characters of a name come first.  The others are then inserted one by one, those with
  the smallest code point first and equal ones from left to right.  An insertion is a code point and
  a place, and both are one number: how many other insertions would have been possible since the one
  before.  These numbers are written one after the other, the last digits first.  Which digit ends a
  number depends on its place and on the *bias*, which follows the size of the numbers before.

  `insertions` and `gaps` go from a name to the numbers, `insertAll` goes back; `digitsOf` and
  `gapsOf` do the same between the numbers and their digits.
-/

namespace Turnstile.Text.Punycode

/-! ## Digits -/

/-- The digit of a number below 36. -/
def digit (n : Nat) : Char := Char.ofNat (if n < 26 then 'a'.toNat + n else '0'.toNat + (n - 26))

/-- The number below 36 that a digit stands for. -/
def digitOf? (c : Char) : Option Nat :=
  if 'a' ≤ c ∧ c ≤ 'z' then some (c.toNat - 'a'.toNat)
  else if 'A' ≤ c ∧ c ≤ 'Z' then some (c.toNat - 'A'.toNat)
  else if c.isDigit then some (c.toNat - '0'.toNat + 26)
  else none

/-- A digit below this number is the last of its number.  `place` counts up in steps of 36. -/
def threshold (bias place : Nat) : Nat := max 1 (min 26 (place - bias))

theorem threshold_pos (bias place : Nat) : 0 < threshold bias place := by
  unfold threshold; omega

/-- The bias that fits a number, which is halved over and over. -/
def settle (places gap : Nat) : Nat :=
  if 455 < gap then settle (places + 36) (gap / 35) else places + 36 * gap / (gap + 38)
termination_by gap
decreasing_by omega

/-- The bias after a number, which made the name `length` characters long. -/
def adapt (first : Bool) (gap length : Nat) : Nat :=
  let scaled := if first then gap / 700 else gap / 2
  settle 0 (scaled + scaled / length)

/-- The digits of one number. -/
def number (bias place gap : Nat) : List Char :=
  let t := threshold bias place
  if gap < t then [digit gap]
  else digit (t + (gap - t) % (36 - t)) :: number bias (place + 36) ((gap - t) / (36 - t))
termination_by gap
decreasing_by
  have := threshold_pos bias place
  exact Nat.lt_of_le_of_lt (Nat.div_le_self _ _) (by omega)

/-- The digits of several numbers, of which the first makes a name of `length` characters longer. -/
def digitsOf (first : Bool) (bias length : Nat) : List Nat → List Char
  | [] => []
  | gap :: rest =>
    number bias 36 gap ++ digitsOf false (adapt first gap (length + 1)) (length + 1) rest

/-- The numbers that digits denote, given the number that is being read so far and the weight of its
next digit. -/
def gapsOf (first : Bool) (bias length place weight soFar : Nat) : List Char → Option (List Nat)
  | [] => if weight = 1 then some [] else none
  | c :: rest => do
    let d ← digitOf? c
    let gap := soFar + d * weight
    if d < threshold bias place then
      return gap :: (← gapsOf false (adapt first gap (length + 1)) (length + 1) 36 1 0 rest)
    else gapsOf first bias length (place + 36) (weight * (36 - threshold bias place)) gap rest

/-! ## Insertions -/

/-- Puts an insertion in front of the first one whose code point is not smaller. -/
def arrange (x : Nat × Nat) : List (Nat × Nat) → List (Nat × Nat)
  | [] => [x]
  | y :: rest => if x.1 ≤ y.1 then x :: y :: rest else y :: arrange x rest

/-- The insertions that make a name, given the characters before it: each code point with its place
among the characters that are there by then. -/
def insertions (before : List Char) : List Char → List (Nat × Nat)
  | [] => []
  | c :: rest =>
    let later := insertions (c :: before) rest
    if c.toNat < 0x80 then later
    else arrange (c.toNat, (before.filter fun b => b.toNat ≤ c.toNat).length) later

/-- What lies between the insertions, given the code point and the place at which the first could
be, and the length of the name before. -/
def gaps (point spot length : Nat) : List (Nat × Nat) → List Nat
  | [] => []
  | (n, i) :: rest =>
    ((n - point) * (length + 1) + i - spot) :: gaps n (i + 1) (length + 1) rest

/-- Does the insertions with the given numbers, if all code points are characters. -/
def insertAll (point spot : Nat) (t : List Char) : List Nat → Option (List Char)
  | [] => some t
  | gap :: rest =>
    let n := point + (spot + gap) / (t.length + 1)
    let i := (spot + gap) % (t.length + 1)
    if n.isValidChar then insertAll n (i + 1) (t.insertIdx i (Char.ofNat n)) rest else none

/-! ## Names -/

/-- The bias before the first number. -/
def initialBias : Nat := 72

/-- A name in ASCII. -/
def encode (t : List Char) : List Char :=
  let ascii := t.filter fun c => c.toNat < 0x80
  (if ascii.isEmpty then [] else ascii ++ ['-']) ++
    digitsOf true initialBias ascii.length (gaps 0x80 0 ascii.length (insertions [] t))

/-- The name that an encoded text denotes. -/
def decode? (t : List Char) : Option (List Char) := do
  let (ascii, digits) := match cutLast '-' t with
    | some ([], _) => ([], t)
    | some (ascii, digits) => (ascii, digits)
    | none => ([], t)
  insertAll 0x80 0 ascii (← gapsOf true initialBias ascii.length 36 1 0 digits)

example : encode "bücher".toList = "bcher-kva".toList := by decide +kernel
example : encode "他们为什么不说中文".toList = "ihqwcrb4cv8a8dqg056pqjye".toList := by decide +kernel
example : encode "3年B組金八先生".toList = "3B-ww4c5e180e575a65lsy2b".toList := by decide +kernel
example : decode? "3B-ww4c5e180e575a65lsy2b".toList = some "3年B組金八先生".toList := by decide +kernel
example : decode? "a".toList = some ['\x80'] := by decide +kernel
example : decode? "-kva".toList = none := by decide +kernel

end Turnstile.Text.Punycode

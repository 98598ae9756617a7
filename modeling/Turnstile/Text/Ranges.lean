/-!
  Tables of characters.

  A property of characters is a list of ranges of code points, both ends included, in ascending
  order; a table in which characters have values adds the value to each range, or has a row of words
  for the characters of a range, one for each.  The tables for names of hosts know some characters
  that are newer than Unicode 17; all others follow this version.
-/

namespace Turnstile.Text

/-- Whether a character is in one of some ranges. -/
def inRanges (ranges : List (Nat × Nat)) (c : Char) : Bool :=
  ranges.any fun (lo, hi) => lo ≤ c.toNat && c.toNat ≤ hi

/-- The value that a table has for a character. -/
def valueOf? {α : Type} (table : List (Nat × Nat × α)) (c : Char) : Option α :=
  (table.find? fun (lo, hi, _) => lo ≤ c.toNat && c.toNat ≤ hi).map (·.2.2)

/-- The words of a row, which stand between single spaces. -/
def wordsOf : List Char → List (List Char)
  | [] => [[]]
  | c :: r =>
    if c = ' ' then [] :: wordsOf r
    else match wordsOf r with
      | [] => [[c]]
      | word :: words => (c :: word) :: words

/-- The word that a table has for a character, whose rows have a word for each character of a
range. -/
def wordOf? (table : List (Nat × Nat × String)) (c : Char) : Option (List Char) := do
  let (lo, _, row) ← table.find? fun (lo, hi, _) => lo ≤ c.toNat && c.toNat ≤ hi
  (wordsOf row.toList)[c.toNat - lo]?

example : inRanges [(0x41, 0x5A), (0x61, 0x7A)] 'q' = true := by decide
example : wordOf? [(0x132, 0x133, "ij ij"), (0x1C4, 0x1C6, "dž dž dž")] '\u01c5' =
    some "dž".toList := by decide

end Turnstile.Text

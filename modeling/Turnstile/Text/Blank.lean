/-!
  White space, and trimming it away.

  Configuration values, header values, host names and proxy ranges are all trimmed before they are
  read.  "White space" is the Unicode property `White_Space` (25 characters), which is wider than
  the class that core's `Char.isWhitespace` tests: `isBlank_of_isWhitespace` says that the former
  contains the latter.
-/

namespace Turnstile.Text

/-- The characters with the Unicode property `White_Space`. -/
def isBlank (c : Char) : Bool :=
  let n := c.toNat
  (9 ≤ n && n ≤ 13) || n == 0x20 || n == 0x85 || n == 0xA0 || n == 0x1680 ||
    (0x2000 ≤ n && n ≤ 0x200A) || n == 0x2028 || n == 0x2029 || n == 0x202F || n == 0x205F ||
    n == 0x3000

theorem isBlank_of_isWhitespace {c : Char} (h : c.isWhitespace = true) : isBlank c = true := by
  simp only [Char.isWhitespace, Bool.or_eq_true, decide_eq_true_eq] at h
  rcases h with ((rfl | rfl) | rfl) | rfl <;> decide

/-- Drops the longest end of `t` whose characters all satisfy `p`. -/
def dropEndWhile (p : Char → Bool) (t : List Char) : List Char := (t.reverse.dropWhile p).reverse

/-- What is left of a text by dropping its end is its front. -/
theorem dropEndWhile_isPrefix (p : Char → Bool) (t : List Char) : dropEndWhile p t <+: t := by
  have hsuffix : t.reverse.dropWhile p <:+ t.reverse := List.dropWhile_suffix p
  rw [← List.reverse_prefix, List.reverse_reverse] at hsuffix
  exact hsuffix

/-- What is dropped at the end satisfies `p`. -/
theorem exists_eq_dropEndWhile_append (p : Char → Bool) (t : List Char) :
    ∃ rest, t = dropEndWhile p t ++ rest ∧ ∀ c ∈ rest, p c = true := by
  refine ⟨(t.reverse.takeWhile p).reverse, ?_, fun c hc => ?_⟩
  · unfold dropEndWhile
    rw [← List.reverse_append, List.takeWhile_append_dropWhile, List.reverse_reverse]
  · exact List.all_eq_true.mp List.all_takeWhile c (List.mem_reverse.mp hc)

/-- `t` without the white space at its two ends. -/
def trim (t : List Char) : List Char := dropEndWhile isBlank (t.dropWhile isBlank)

/-- ASCII letters in lower case; every other character is kept. -/
def lower (t : List Char) : List Char := t.map Char.toLower

example : trim " \t10.0.0.1\u00a0\u3000".toList = "10.0.0.1".toList := by decide
example : lower "ÀBC.Org".toList = "Àbc.org".toList := by decide

end Turnstile.Text

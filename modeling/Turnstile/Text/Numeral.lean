/-!
  Decimal numerals of bounded size.

  A numeral is an optional single `+` followed by decimal digits, with leading zeros allowed and
  nothing else around them.  The three ways to fail are told apart by `NumeralError`; when several
  apply, the first offending character decides, since `accumulate` reads from the left.
-/

namespace Turnstile.Text

/-- Why a text is no numeral below a bound. -/
inductive NumeralError where
  | empty
  | invalidDigit
  | tooLarge
  deriving DecidableEq, Repr

def NumeralError.message : NumeralError → String
  | .empty => "cannot parse integer from empty string"
  | .invalidDigit => "invalid digit found in string"
  | .tooLarge => "number too large to fit in target type"

/-- The value of a decimal digit. -/
def digitValue (c : Char) : Nat := c.toNat - '0'.toNat

/-- Reads digits after a prefix of value `n`, refusing to reach `bound`. -/
def accumulate (bound : Nat) : Nat → List Char → Except NumeralError Nat
  | n, [] => .ok n
  | n, c :: r =>
    if c.isDigit then
      if n * 10 + digitValue c < bound then accumulate bound (n * 10 + digitValue c) r
      else .error .tooLarge
    else .error .invalidDigit

/-- The number below `bound` that `t` denotes. -/
def numeral (bound : Nat) (t : List Char) : Except NumeralError Nat :=
  match t with
  | [] => .error .empty
  | ['+'] => .error .invalidDigit
  | '+' :: digits => accumulate bound 0 digits
  | digits => accumulate bound 0 digits

/-- A number that is read is below the bound, so it fits the type that it is read for. -/
theorem accumulate_lt {bound n m : Nat} {t : List Char} (hn : n < bound)
    (h : accumulate bound n t = .ok m) : m < bound := by
  induction t generalizing n with
  | nil => simp [accumulate] at h; omega
  | cons c r ih =>
    unfold accumulate at h
    split at h
    · split at h
      · rename_i hlt; exact ih hlt h
      · exact absurd h (by simp)
    · exact absurd h (by simp)

/-- The bounds of the numbers that the settings hold. -/
def bound16 : Nat := 0x10000
def bound32 : Nat := 0x100000000
def bound64 : Nat := 0x10000000000000000

def uint16 (t : List Char) : Except NumeralError UInt16 := (numeral bound16 t).map UInt16.ofNat
def uint32 (t : List Char) : Except NumeralError UInt32 := (numeral bound32 t).map UInt32.ofNat
def uint64 (t : List Char) : Except NumeralError UInt64 := (numeral bound64 t).map UInt64.ofNat

/-- The value of a hexadecimal digit, in either case. -/
def hexValue? (c : Char) : Option Nat :=
  if c.isDigit then some (c.toNat - '0'.toNat)
  else if 'a' ≤ c ∧ c ≤ 'f' then some (c.toNat - 'a'.toNat + 10)
  else if 'A' ≤ c ∧ c ≤ 'F' then some (c.toNat - 'A'.toNat + 10)
  else none

example : uint16 "+0065535".toList = .ok 65535 := rfl
example : uint16 "65536x".toList = .error .tooLarge := rfl
example : uint16 "6553x".toList = .error .invalidDigit := rfl
example : uint32 "".toList = .error .empty := rfl

end Turnstile.Text

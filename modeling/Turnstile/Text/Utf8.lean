/-!
  UTF-8 between text and bytes.

  `encode` writes every character; `decode?` reads a well-formed sequence back and refuses any
  other; `decodeLossy` reads any sequence and puts U+FFFD for each maximal ill-formed stretch, that
  is for the longest run of bytes that could still have begun a character.
-/

namespace Turnstile

/-- What bodies and header values are made of. -/
abbrev Bytes := List UInt8

namespace Text

/-- The UTF-8 bytes of a text. -/
def encode (t : List Char) : Bytes := t.flatMap String.utf8EncodeChar

/-- The UTF-8 bytes of a string. -/
def bytes (s : String) : Bytes := encode s.toList

/-- The string whose UTF-8 bytes these are, if they are well formed. -/
def decode? (b : Bytes) : Option String := String.fromUTF8? ⟨b.toArray⟩

/-- How a character starts: how many bytes must follow `b`, and the range of the first of them. -/
def leading (b : UInt8) : Option (Nat × UInt8 × UInt8) :=
  if 0xC2 ≤ b ∧ b ≤ 0xDF then some (1, 0x80, 0xBF)
  else if b = 0xE0 then some (2, 0xA0, 0xBF)
  else if b = 0xED then some (2, 0x80, 0x9F)
  else if 0xE1 ≤ b ∧ b ≤ 0xEF then some (2, 0x80, 0xBF)
  else if b = 0xF0 then some (3, 0x90, 0xBF)
  else if 0xF1 ≤ b ∧ b ≤ 0xF3 then some (3, 0x80, 0xBF)
  else if b = 0xF4 then some (3, 0x80, 0x8F)
  else none

/-- The low six bits, which a byte after the first contributes. -/
def payload (b : UInt8) : Nat := b.toNat % 64

/-- The character that stands for bytes that make up none. -/
def replacement : Char := '\ufffd'

/-- Bytes still owed to the character that is being read, the range that the next one must be in,
and the value collected so far. -/
structure Partial where
  owed : Nat
  low : UInt8
  high : UInt8
  value : Nat

/-- Starts a character with `b`: a finished one-byte character, a partial one, or neither. -/
def start (b : UInt8) : List Char × Option Partial :=
  if b < 0x80 then ([Char.ofNat b.toNat], none)
  else match leading b with
    | none => ([replacement], none)
    | some (owed, low, high) =>
      -- the leading byte holds five, four or three bits of the value
      ([], some ⟨owed, low, high, b.toNat % (if owed = 1 then 32 else if owed = 2 then 16 else 8)⟩)

/-- Reads one byte, given the partial character before it. -/
def feed (p : Option Partial) (b : UInt8) : List Char × Option Partial :=
  match p with
  | none => start b
  | some p =>
    if p.low ≤ b ∧ b ≤ p.high then
      let value := p.value * 64 + payload b
      if p.owed = 1 then ([Char.ofNat value], none)
      else ([], some ⟨p.owed - 1, 0x80, 0xBF, value⟩)
    else
      let (out, q) := start b
      (replacement :: out, q)

/-- Reads all bytes after a partial character; one that stays unfinished is replaced too. -/
def decodeFrom (p : Option Partial) : Bytes → List Char
  | [] => if p.isSome then [replacement] else []
  | b :: r => let (out, q) := feed p b; out ++ decodeFrom q r

/-- The text of any bytes, with U+FFFD for what is not well formed. -/
def decodeLossy (b : Bytes) : String := String.ofList (decodeFrom none b)

/-! ## Bytes one by one

  Where a format is about bytes, each byte is taken for the character with its number. -/

/-- Each byte as a character. -/
def ofOctets (b : Bytes) : List Char := b.map Char.ofUInt8

/-- Each character as a byte; what does not fit is cut off. -/
def octets (t : List Char) : Bytes := t.map fun c => UInt8.ofNat c.toNat

theorem octets_ofOctets (b : Bytes) : octets (ofOctets b) = b := by
  have h (x : UInt8) : UInt8.ofNat (Char.ofUInt8 x).toNat = x := UInt8.ofNat_toNat
  induction b with
  | nil => rfl
  | cons x r ih => exact (congrArg (· :: _) (h x)).trans (congrArg (x :: ·) ih)

example : decodeLossy [0x61, 0xFF, 0x62] = "a\ufffdb" := by decide
example : decodeLossy [0xED, 0xA0, 0x80] = "\ufffd\ufffd\ufffd" := by decide
example : decodeLossy [0xF0, 0x9F, 0x98, 0x41] = "\ufffdA" := by decide
example : decodeLossy (bytes "é€😀") = "é€😀" := by decide

end Text

end Turnstile

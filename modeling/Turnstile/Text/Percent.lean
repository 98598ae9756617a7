import Turnstile.Text.Numeral
import Turnstile.Text.Utf8
/-!
  Percent-encoding.

  A byte is written `%` and two hexadecimal digits.  What has to be written so depends on the place
  in a URL, so an encoder takes the set of ASCII characters to encode as a predicate; characters
  outside ASCII are always encoded, byte by byte of their UTF-8 form.  A text with nothing to encode
  is encoded as itself, and no other is (`encode_eq_self_iff`).
-/

namespace Turnstile.Text.Percent

/-- A hexadecimal digit in upper case. -/
def hexDigit (n : Nat) : Char := (Nat.digitChar n).toUpper

/-- One byte as `%XX`. -/
def encodeByte (b : UInt8) : List Char := ['%', hexDigit (b.toNat / 16), hexDigit (b.toNat % 16)]

/-- One character, encoded if it is in `set` or outside ASCII. -/
def encodeChar (set : Char → Bool) (c : Char) : List Char :=
  if set c || 0x80 ≤ c.toNat then (String.utf8EncodeChar c).flatMap encodeByte else [c]

/-- A text with the characters of `set`, and those outside ASCII, percent-encoded. -/
def encode (set : Char → Bool) (t : List Char) : List Char := t.flatMap (encodeChar set)

theorem encode_append (set : Char → Bool) (a b : List Char) :
    encode set (a ++ b) = encode set a ++ encode set b := List.flatMap_append

theorem encode_cons (set : Char → Bool) (c : Char) (t : List Char) :
    encode set (c :: t) = encodeChar set c ++ encode set t := List.flatMap_cons

theorem encodeChar_of_kept {set : Char → Bool} {c : Char} (h : set c = false ∧ c.toNat < 0x80) :
    encodeChar set c = [c] := by
  unfold encodeChar
  rw [h.1, decide_eq_false (by omega), Bool.or_self, if_neg Bool.false_ne_true]

/-- A character that is not kept takes up three characters or more. -/
theorem length_encodeChar_of_not_kept {set : Char → Bool} {c : Char}
    (h : ¬ (set c = false ∧ c.toNat < 0x80)) : 3 ≤ (encodeChar set c).length := by
  have hencoded : (set c || decide (0x80 ≤ c.toNat)) = true := by
    cases hset : set c with
    | true => rfl
    | false => simpa [hset] using h
  obtain ⟨b, bytes, hb⟩ := List.exists_cons_of_ne_nil (String.utf8EncodeChar_ne_nil (c := c))
  unfold encodeChar
  rw [if_pos hencoded, hb]
  simp [encodeByte]

theorem length_le_encode (set : Char → Bool) (t : List Char) :
    t.length ≤ (encode set t).length := by
  induction t with
  | nil => exact Nat.le_refl _
  | cons c r ih =>
    have hc : 1 ≤ (encodeChar set c).length := by
      by_cases h : set c = false ∧ c.toNat < 0x80
      · rw [encodeChar_of_kept h]
        exact Nat.le_refl 1
      · exact Nat.le_of_succ_le (Nat.le_of_succ_le (length_encodeChar_of_not_kept h))
    rw [encode_cons, List.length_append, List.length_cons]
    omega

/-- A text is encoded as itself exactly if all its characters are kept. -/
theorem encode_eq_self_iff {set : Char → Bool} {t : List Char} :
    encode set t = t ↔ ∀ c ∈ t, set c = false ∧ c.toNat < 0x80 := by
  induction t with
  | nil => simp [encode]
  | cons c r ih =>
    rw [List.forall_mem_cons, ← ih, encode_cons]
    constructor
    · intro h
      by_cases hc : set c = false ∧ c.toNat < 0x80
      · rw [encodeChar_of_kept hc] at h
        exact ⟨hc, (List.cons.inj h).2⟩
      · -- the text would have become longer
        have hlong := length_encodeChar_of_not_kept hc
        have hrest := length_le_encode set r
        have hlength := congrArg List.length h
        rw [List.length_append, List.length_cons] at hlength
        omega
    · rintro ⟨hc, hr⟩
      rw [encodeChar_of_kept hc, hr]
      rfl

/-! ## The sets -/

/-- The ASCII controls. -/
def controls (c : Char) : Bool := c.toNat < 0x20 || c.toNat == 0x7F

/-- What is encoded in a fragment. -/
def fragmentSet (c : Char) : Bool := controls c || c ∈ [' ', '"', '<', '>', '\x60']

/-- What is encoded in a path. -/
def pathSet (c : Char) : Bool := fragmentSet c || c ∈ ['#', '?', '\x7b', '\x7d']

/-- What is encoded in a user name or password. -/
def userinfoSet (c : Char) : Bool :=
  pathSet c || c ∈ ['/', ':', ';', '=', '@', '[', '\\', ']', '^', '|']

/-- What is encoded in a query. -/
def querySet (c : Char) : Bool := controls c || c ∈ [' ', '"', '#', '<', '>']

/-- What is encoded in the query of a URL whose scheme is special. -/
def specialQuerySet (c : Char) : Bool := querySet c || c == '\''

/-! ## Decoding -/

/-- The byte that two hexadecimal digits denote. -/
def hexPair? (h l : UInt8) : Option UInt8 := do
  let x ← hexValue? (Char.ofUInt8 h)
  let y ← hexValue? (Char.ofUInt8 l)
  pure (UInt8.ofNat (x * 16 + y))

/-- The bytes that a percent-encoded byte string denotes: `%` with two hexadecimal digits after it
is one byte, every other byte stands for itself. -/
def decode : Bytes → Bytes
  | b :: h :: l :: r =>
    if b = 0x25 then
      match hexPair? h l with
      | some x => x :: decode r
      | none => b :: decode (h :: l :: r)
    else b :: decode (h :: l :: r)
  | short => short

example : encode pathSet "a b%é".toList = "a%20b%%C3%A9".toList := by decide
example : decode (bytes "%2B5%zz%4") = bytes "+5%zz%4" := by decide

end Turnstile.Text.Percent

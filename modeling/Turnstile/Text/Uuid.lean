import Turnstile.Text.Utf8
/-!
  Names drawn by lot.

  Sixteen random bytes make a UUID: in hexadecimal, in five groups, with the version in the first
  digit of the third group and the variant in the first digit of the fourth.
-/

namespace Turnstile.Text.Uuid

/-- A byte as two hexadecimal digits. -/
def hexPair (b : UInt8) : List Char := [Nat.digitChar (b.toNat / 16), Nat.digitChar (b.toNat % 16)]

/-- Bytes with the version and the variant of a UUID drawn by lot in their places. -/
def marked (b : Bytes) : Bytes :=
  (b.modify 6 fun x => 0x40 ||| (x &&& 0x0F)).modify 8 fun x => 0x80 ||| (x &&& 0x3F)

/-- The UUID that sixteen bytes make. -/
def ofBytes (b : Bytes) : String :=
  let t := (marked b).flatMap hexPair
  let group (start length : Nat) : List Char := (t.drop start).take length
  String.ofList (['-'].intercalate [group 0 8, group 8 4, group 12 4, group 16 4, group 20 12])

example : ofBytes (List.replicate 16 0xFF) = "ffffffff-ffff-4fff-bfff-ffffffffffff" := by decide

end Turnstile.Text.Uuid

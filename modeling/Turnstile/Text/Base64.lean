import Turnstile.Text.Utf8
/-!
  Bytes in Base64.

  Three bytes are four digits of six bits each; where bytes are missing at the end, `=` stands for
  the digits that they would fill.
-/

namespace Turnstile.Text.Base64

/-- The digits, in the order of their values. -/
def digits : List Char := "ABCDEFGHIJKLMNOPQRSTUVWXYZabcdefghijklmnopqrstuvwxyz0123456789+/".toList

/-- The digit of a value; only the low six bits count. -/
def digit (n : Nat) : Char := digits.getD (n % 64) 'A'

/-- The digits of some bytes. -/
def encode : Bytes → List Char
  | a :: b :: c :: r =>
    let n := (a.toNat * 256 + b.toNat) * 256 + c.toNat
    digit (n / 262144) :: digit (n / 4096) :: digit (n / 64) :: digit n :: encode r
  | [a, b] =>
    let n := (a.toNat * 256 + b.toNat) * 4
    [digit (n / 4096), digit (n / 64), digit n, '=']
  | [a] =>
    let n := a.toNat * 16
    [digit (n / 64), digit n, '=', '=']
  | [] => []

example : ["", "f", "fo", "foo", "foob"].map (fun s => String.ofList (encode (bytes s))) =
    ["", "Zg==", "Zm8=", "Zm9v", "Zm9vYg=="] := by decide

end Turnstile.Text.Base64

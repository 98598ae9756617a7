import Turnstile.Text.Numeral
import Turnstile.Text.Split
/-!
  IP addresses: their bits, their text, and reading the text back.

  An address is its bits, 32 or 128 of them.  An IPv4 text is four decimal octets without leading
  zeros.  An IPv6 text is eight groups of up to four hexadecimal digits, of which the last two may
  be written as an IPv4 text, and of which one run of zero groups may be left out, leaving `::`.
  The canonical text leaves out the longest such run, the first of several, if it has two groups or
  more.
-/

namespace Turnstile

/-- An IP address. -/
inductive IpAddr where
  | v4 (bits : BitVec 32)
  | v6 (bits : BitVec 128)
  deriving DecidableEq, Repr

namespace IpAddr

open Text

/-- How many bits an address has. -/
def width : IpAddr → Nat
  | v4 _ => 32
  | v6 _ => 128

/-! ## Reading -/

/-- One octet of an IPv4 text: up to three digits, no leading zero, at most 255. -/
def octet? (t : List Char) : Option Nat :=
  match t with
  | [] => none
  | '0' :: _ :: _ => none
  | _ =>
    if t.length ≤ 3 then
      match accumulate 256 0 t with
      | .ok n => some n
      | .error _ => none
    else none

/-- The bits of an IPv4 text. -/
def dotted? (t : List Char) : Option (BitVec 32) :=
  match (split '.' t).mapM octet? with
  | some [a, b, c, d] => some (BitVec.ofNat 32 (((a * 256 + b) * 256 + c) * 256 + d))
  | _ => none

/-- The value of hexadecimal digits. -/
def hexNumber? (t : List Char) : Option Nat :=
  t.foldlM (fun n c => (hexValue? c).map (n * 16 + ·)) 0

/-- One group of an IPv6 text. -/
def group? (t : List Char) : Option Nat :=
  if t.length = 0 ∨ 4 < t.length then none else hexNumber? t

/-- The groups of pieces of which each is one group. -/
def groups? (pieces : List (List Char)) : Option (List Nat) := pieces.mapM group?

/-- The groups of pieces of which the last may be an IPv4 text, which makes two groups. -/
def groupsMixed? : List (List Char) → Option (List Nat)
  | [] => some []
  | [last] =>
    match dotted? last with
    | some bits => some [bits.toNat / 65536, bits.toNat % 65536]
    | none => (group? last).map ([·])
  | piece :: r => do
    let g ← group? piece
    let gs ← groupsMixed? r
    pure (g :: gs)

/-- The pieces between colons; no pieces at all in an empty text. -/
def pieces (t : List Char) : List (List Char) := if t.isEmpty then [] else split ':' t

/-- The text before and after the first `::`. -/
def cutGap : List Char → Option (List Char × List Char)
  | [] => none
  | c :: r =>
    if c = ':' ∧ r.head? = some ':' then some ([], r.tail)
    else (cutGap r).map fun (a, b) => (c :: a, b)

/-- The number that has these groups as its digits in base `65536`. -/
def ofGroups (gs : List Nat) : Nat := gs.foldl (fun n g => n * 65536 + g) 0

/-- The bits of an IPv6 text. -/
def colons? (t : List Char) : Option (BitVec 128) :=
  match cutGap t with
  | none => do
    let gs ← groupsMixed? (split ':' t)
    if gs.length = 8 then pure (BitVec.ofNat 128 (ofGroups gs)) else none
  | some (front, back) => do
    let hs ← groups? (pieces front)
    let ts ← groupsMixed? (pieces back)
    if hs.length + ts.length ≤ 7 then
      pure (BitVec.ofNat 128
        (ofGroups (hs ++ List.replicate (8 - hs.length - ts.length) 0 ++ ts)))
    else none

/-- The address that a text denotes. -/
def read? (t : List Char) : Option IpAddr :=
  match dotted? t with
  | some bits => some (v4 bits)
  | none => (colons? t).map v6

/-- The address that a string denotes. -/
def parse? (s : String) : Option IpAddr := read? s.toList

/-! ## Writing -/

/-- The eight groups of an IPv6 address. -/
def toGroups (bits : BitVec 128) : List Nat :=
  [112, 96, 80, 64, 48, 32, 16, 0].map fun i => (bits.toNat >>> i) % 65536

/-- How many zeros a list begins with. -/
def zeroRun (gs : List Nat) : Nat := (gs.takeWhile (· == 0)).length

/-- Where the longest run of zeros begins, and its length; the first one of several. -/
def longestZeroRun : List Nat → Nat × Nat
  | [] => (0, 0)
  | g :: gs =>
    let here := zeroRun (g :: gs)
    let (start, length) := longestZeroRun gs
    if length ≤ here then (0, here) else (start + 1, length)

/-- Groups in hexadecimal, with colons between them. -/
def groupsText (gs : List Nat) : List Char := [':'].intercalate (gs.map (Nat.toDigits 16))

/-- The groups of an IPv6 address, the longest run of two or more zeros left out. -/
def colonText (gs : List Nat) : List Char :=
  let (start, length) := longestZeroRun gs
  if 2 ≤ length then
    groupsText (gs.take start) ++ [':', ':'] ++ groupsText (gs.drop (start + length))
  else groupsText gs

/-- The four octets of an IPv4 address. -/
def dottedText (bits : BitVec 32) : List Char :=
  ['.'].intercalate ([24, 16, 8, 0].map fun i => Nat.toDigits 10 ((bits.toNat >>> i) % 256))

/-- The canonical text of an address.  An IPv6 address that stands for an IPv4 address shows it. -/
def text : IpAddr → List Char
  | v4 bits => dottedText bits
  | v6 bits =>
    if bits.toNat >>> 32 = 0xFFFF then
      "::ffff:".toList ++ dottedText (BitVec.ofNat 32 bits.toNat)
    else colonText (toGroups bits)

/-- The canonical text of an address, as a string. -/
def toString (a : IpAddr) : String := String.ofList a.text

instance : ToString IpAddr := ⟨IpAddr.toString⟩

/-- The address that stands for an unknown client. -/
def unspecified : IpAddr := v4 0

example : (parse? "2001:DB8::0001").map IpAddr.toString = some "2001:db8::1" := by decide +kernel
example : (parse? "1:0:0:2:0:0:3:4").map IpAddr.toString = some "1::2:0:0:3:4" := by decide +kernel
example : (parse? "::1.2.3.4").map IpAddr.toString = some "::102:304" := by decide +kernel
example : (parse? "::ffff:1.2.3.4").map IpAddr.toString = some "::ffff:1.2.3.4" := by decide +kernel
example : parse? "1.2.3.04" = none := by decide +kernel
example : parse? "1:2:3:4:5:6:7:8::" = none := by decide +kernel

end IpAddr

end Turnstile

import Turnstile.Address.Ip
import Turnstile.Text.Blank
/-!
  Ranges of addresses, and which peers they make trusted.

  A range is an address and the number of its leading bits that count; the other bits of the written
  address are ignored.  Ranges of one family hold no address of the other.  A list of ranges trusts
  a peer that lies in one of them; an empty list trusts everyone.
-/

namespace Turnstile

/-- The addresses that share their first `length` bits with `network`. -/
structure Cidr where
  network : IpAddr
  length : Nat
  deriving DecidableEq, Repr

namespace Cidr

/-- The range that a text denotes, such as `10.0.0.0/8`.  An address alone is the range of
itself. -/
def parse? (s : String) : Option Cidr :=
  let t := Text.trim s.toList
  match Text.cut '/' t with
  | none => (IpAddr.read? t).map fun a => ⟨a, a.width⟩
  | some (address, length) =>
    match IpAddr.read? address, Text.numeral 256 length with
    | some a, .ok n => if n ≤ a.width then some ⟨a, n⟩ else none
    | _, _ => none

/-- The mask that keeps the first `n` of `w` bits. -/
def mask (w n : Nat) : BitVec w := BitVec.allOnes w <<< (w - n)

/-- Whether an address lies in a range. -/
def contains (r : Cidr) (a : IpAddr) : Bool :=
  match r.network, a with
  | .v4 net, .v4 addr => net &&& mask 32 r.length == addr &&& mask 32 r.length
  | .v6 net, .v6 addr => net &&& mask 128 r.length == addr &&& mask 128 r.length
  | _, _ => false

example : (parse? " 10.1.2.3/8 ").map (·.contains (.v4 0x0AFFFFFF)) = some true := by decide +kernel
example : (parse? "10.1.2.3/0").map (·.contains (.v4 0xFFFFFFFF)) = some true := by decide +kernel
example : parse? "10.0.0.0/33" = none := by decide +kernel

end Cidr

/-- The ranges whose peers may speak for a client. -/
structure TrustedProxies where
  ranges : List Cidr
  deriving DecidableEq, Repr

namespace TrustedProxies

/-- The ranges among some texts; a text that denotes none is passed over. -/
def ofTexts (texts : List String) : TrustedProxies := ⟨texts.filterMap Cidr.parse?⟩

/-- The texts that `ofTexts` passes over. -/
def rejected (texts : List String) : List String := texts.filter fun s => (Cidr.parse? s).isNone

/-- Whether there is any range, so that peers are told apart at all. -/
def isEnabled (p : TrustedProxies) : Bool := !p.ranges.isEmpty

/-- Whether a peer's word on its client is taken.  An unknown peer lies in no range. -/
def trusts (p : TrustedProxies) (peer : Option IpAddr) : Bool :=
  p.ranges.isEmpty || (match peer with
    | some a => p.ranges.any (·.contains a)
    | none => false)

end TrustedProxies

end Turnstile

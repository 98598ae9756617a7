import Turnstile.Address.Ip
/-!
  Socket addresses: an IP address and a port.

  The text is `address:port`; an IPv6 address stands in brackets and may carry a numeric scope after
  `%`.  Both numbers are plain digits, with leading zeros allowed.
-/

namespace Turnstile

/-- An address to listen on or to connect to. -/
structure SocketAddr where
  ip : IpAddr
  port : UInt16
  /-- The zone of a link-local IPv6 address; zero when the text names none. -/
  scope : UInt32
  deriving DecidableEq

namespace SocketAddr

open Text

/-- The number below `bound` that digits denote, without a sign. -/
def number? (bound : Nat) (t : List Char) : Option Nat :=
  if t.isEmpty then none
  else match accumulate bound 0 t with
    | .ok n => some n
    | .error _ => none

/-- The port after the last colon of a text. -/
def port? (t : List Char) : Option UInt16 := (number? bound16 t).map UInt16.ofNat

/-- The socket address that a text denotes. -/
def read? (t : List Char) : Option SocketAddr :=
  match t with
  | '[' :: r => do
    let (inside, after) ← cut ']' r
    let port ← match after with
      | ':' :: digits => port? digits
      | _ => none
    match cut '%' inside with
    | none => do
      let bits ← IpAddr.colons? inside
      pure ⟨.v6 bits, port, 0⟩
    | some (address, zone) => do
      let bits ← IpAddr.colons? address
      let n ← number? bound32 zone
      pure ⟨.v6 bits, port, UInt32.ofNat n⟩
  | _ => do
    let (address, digits) ← cut ':' t
    let bits ← IpAddr.dotted? address
    let port ← port? digits
    pure ⟨.v4 bits, port, 0⟩

/-- The socket address that a string denotes. -/
def parse? (s : String) : Option SocketAddr := read? s.toList

/-- The text of a socket address. -/
def toString (a : SocketAddr) : String :=
  match a.ip with
  | .v4 _ => s!"{a.ip}:{a.port}"
  | .v6 _ => if a.scope = 0 then s!"[{a.ip}]:{a.port}" else s!"[{a.ip}%{a.scope}]:{a.port}"

instance : ToString SocketAddr := ⟨SocketAddr.toString⟩

example : (parse? "127.0.0.1:08080").map SocketAddr.toString = some "127.0.0.1:8080" := by
  decide +kernel
example : (parse? "[::1%3]:80").map SocketAddr.toString = some "[::1%3]:80" := by decide +kernel
example : (parse? "localhost:80").isNone := by decide +kernel

end SocketAddr

end Turnstile

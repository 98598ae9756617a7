import Turnstile.Address.Ip
import Turnstile.Url.Basic
import Turnstile.Url.Name
/-!
  The host of a URL.

  A host in brackets is an IPv6 address.  Otherwise, in a special URL, it is a name:
  percent-decoded, in its form in ASCII, and without the characters that separate the parts of a
  URL.  A name whose last label is a number must be an IPv4 address, whose numbers may be octal or
  hexadecimal and of which the last may fill several octets.  In any other URL a host is kept as it
  is.
-/

namespace Turnstile.Url

open Text

/-! ## IPv4 -/

/-- One number of an IPv4 host: the inner `none` stands for one that is too large. -/
def ipv4Number? (t : List Char) : Option (Option Nat) :=
  let (base, digits) := match t with
    | '0' :: 'x' :: r => (16, r)
    | '0' :: 'X' :: r => (16, r)
    | '0' :: d :: r => (8, d :: r)
    | r => (10, r)
  if t.isEmpty then none
  else
    let value := digits.foldlM (fun n c =>
      match hexValue? c with
      | some d => if d < base then some (n * base + d) else none
      | none => none) 0
    value.map fun n => if n < bound32 then some n else none

/-- The labels of a host, without an empty one at the end. -/
def hostLabels (t : List Char) : List (List Char) :=
  let labels := split '.' t
  if labels.getLast? = some [] then labels.dropLast else labels

/-- Whether the last label of a host is a number. -/
def endsInNumber (t : List Char) : Bool :=
  match (hostLabels t).getLast? with
  | none => false
  | some last => (!last.isEmpty && last.all Char.isDigit) || (ipv4Number? last).isSome

/-- The address that numbers denote, of which all but the last are octets. -/
def ipv4OfNumbers (numbers : List Nat) : Option (BitVec 32) :=
  match numbers.reverse with
  | [] => none
  | last :: front =>
    let octets := front.reverse
    if 4 < numbers.length ∨ octets.any (255 < ·) ∨ bound32 >>> (8 * octets.length) ≤ last then none
    else
      let placed := octets.zipIdx.map fun (n, i) => n <<< (8 * (3 - i))
      some (BitVec.ofNat 32 (placed.foldl (· + ·) last))

/-- The address of a host that ends in a number. -/
def ipv4Host (t : List Char) : Except UrlError (BitVec 32) :=
  match (hostLabels t).mapM fun label => (ipv4Number? label).bind id with
  | some numbers =>
    match ipv4OfNumbers numbers with
    | some bits => .ok bits
    | none => .error .invalidIpv4
  | none => .error .invalidIpv4

/-! ## Names -/

/-- What no host may contain. -/
def isForbiddenInHost (c : Char) : Bool :=
  c ∈ ['\x00', '\t', '\n', '\r', ' ', '#', '/', ':', '<', '>', '?', '@', '[', '\\', ']', '^', '|']

/-- What no name may contain. -/
def isForbiddenInName (c : Char) : Bool :=
  isForbiddenInHost c || Percent.controls c || c = '%'

/-- The name that a percent-encoded text denotes. -/
def hostName (t : List Char) : Except UrlError (List Char) :=
  match (decode? (Percent.decode (encode t))).bind fun s => Name.ascii? s.toList with
  | none => .error .invalidName
  | some name =>
    if name.any isForbiddenInName then .error .invalidName
    else if name.isEmpty then .error .emptyHost
    else .ok name

/-! ## Hosts -/

/-- An IPv6 host, which shows its groups only. -/
def ipv6Text (bits : BitVec 128) : List Char :=
  '[' :: IpAddr.colonText (IpAddr.toGroups bits) ++ [']']

/-- A host in brackets. -/
def bracketed (inside : List Char) : Except UrlError (List Char) :=
  if inside.getLast? = some ']' then
    match IpAddr.colons? inside.dropLast with
    | some bits => .ok (ipv6Text bits)
    | none => .error .invalidIpv6
  else .error .invalidIpv6

/-- The host of a special URL. -/
def specialHost (t : List Char) : Except UrlError (List Char) :=
  match t with
  | '[' :: r => bracketed r
  | _ => do
    let name ← hostName t
    if endsInNumber name then (ipv4Host name).map IpAddr.dottedText else .ok name

/-- The host of a URL that is not special. -/
def otherHost (t : List Char) : Except UrlError (List Char) :=
  match t with
  | '[' :: r => bracketed r
  | _ =>
    if t.any isForbiddenInHost then .error .invalidCharacter
    else .ok (Percent.encode Percent.controls t)

example : specialHost "0x7f.1".toList = .ok "127.0.0.1".toList := rfl
example : specialHost "2130706433".toList = .ok "127.0.0.1".toList := rfl
example : specialHost "256.256.256.256".toList = .error .invalidIpv4 := rfl
example : specialHost "a<b".toList = .error .invalidName := rfl
example : (specialHost "B%C3%9Ccher\u3002A".toList).toOption = some "xn--bcher-kva.a".toList := by
  decide +kernel
example : specialHost "[2001:DB8::0:1]".toList = .ok "[2001:db8::1]".toList := by cbv

end Turnstile.Url

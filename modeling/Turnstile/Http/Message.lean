import Turnstile.Address.Ip
import Turnstile.Http.Header
import Turnstile.Http.Uri
import Turnstile.Text.Json
/-!
  Requests and responses.

  A body is present as a whole, so a message is a value: a filter takes a request and gives back a
  response or passes the request on.
-/

namespace Turnstile

/-- A request, and the address that it came from, if that is known. -/
structure Request where
  method : String
  uri : Uri
  headers : Headers
  body : Bytes
  peer : Option IpAddr
  deriving DecidableEq, Repr

/-- An answer to a request. -/
structure Response where
  status : Nat
  headers : Headers
  body : Bytes
  deriving DecidableEq, Repr

/-- Whether a text may name something in a message: a method or a field. -/
def isToken (t : List Char) : Bool :=
  !t.isEmpty && t.all fun c => c.isAlphanum || c ∈ "!#$%&'*+-.^_\x60|~".toList

/-- Whether a text may name a request method. -/
def isMethod (s : String) : Bool := isToken s.toList

/-- Whether a number is a status that a response can have. -/
def isStatus (n : Nat) : Bool := 100 ≤ n && n ≤ 999

namespace Response

/-- A status alone, without fields and body. -/
def bare (status : Nat) : Response := ⟨status, [], []⟩

/-- A plain text. -/
def plain (status : Nat) (text : String) : Response :=
  ⟨status, [("content-type", .ofString "text/plain; charset=utf-8")], Text.bytes text⟩

/-- A JSON document. -/
def json (status : Nat) (document : Json) : Response :=
  ⟨status, [("content-type", .ofString "application/json")], Text.bytes document.text⟩

end Response

end Turnstile

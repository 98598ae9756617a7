import Turnstile.Http.Wire
import Turnstile.Proxy.Forward
import Turnstile.Text.Base64
/-!
  The request to a destination, as it goes over a connection.

  Beside the fields that are passed on it has those that the destination needs: its own host, what
  is accepted, and the credentials that the URL holds.  What the client says about the latter two
  counts more.
-/

namespace Turnstile.Outbound

open Text

/-- The host of the destination; none only for a destination that cannot be contacted. -/
def host (o : Outbound) : List Char := o.url.host.getD []

/-- The port of the destination. -/
def port (o : Outbound) : Nat := (o.url.port.or (Url.defaultPort? o.url.scheme)).getD 0

/-- The host, and the port if it is not the usual one. -/
def hostField (o : Outbound) : HeaderValue :=
  .ofText (o.host ++ (match o.url.port with
    | some port => ':' :: Nat.toDigits 10 port
    | none => []))

/-- The path and the query. -/
def target (o : Outbound) : List Char :=
  Url.pathText o.url.path ++ (match o.url.query with
    | some query => '?' :: query
    | none => [])

/-- The credentials in the URL. -/
def credentials? (o : Outbound) : Option HeaderValue :=
  let (username, password) := (o.url.username, o.url.password)
  if username.isEmpty && password.isEmpty then none
  else some (.ofText ("Basic ".toList ++ Base64.encode
    (Percent.decode (encode username) ++ bytes ":" ++ Percent.decode (encode password))))

/-- The fields with one more, unless its name is there already. -/
def complete (h : Headers) (name : String) (v : Option HeaderValue) : Headers :=
  match v with
  | some v => if (Headers.get? h name).isSome then h else Headers.append h name v
  | none => h

/-- The length of the body, where it has to be told. -/
def lengthField? (o : Outbound) : Option HeaderValue :=
  if o.body.isEmpty && (o.method = "GET" || o.method = "HEAD") then none
  else some (.ofString (toString o.body.length))

/-- All fields of the request. -/
def fields (o : Outbound) : Headers :=
  let h := complete o.headers "accept" (some (.ofString "*/*"))
  let h := complete h "authorization" o.credentials?
  ("host", o.hostField) :: complete h "content-length" o.lengthField? ++ [Wire.closing]

/-- The bytes of the request. -/
def bytes (o : Outbound) : Bytes :=
  Wire.headBytes s!"{o.method} {String.ofList o.target} HTTP/1.1" o.fields ++ o.body

example :
    (Url.parse "http://u:p%40@h:81/a?b").toOption.map (fun url =>
      String.ofList ((bytes ⟨"GET", url, [("accept", .ofString "x")], []⟩).map Char.ofUInt8)) =
    some ("GET /a?b HTTP/1.1\r\nhost: h:81\r\naccept: x\r\nauthorization: Basic dTpwQA==\r\n" ++
      "connection: close\r\n\r\n") := by
  decide +kernel

end Turnstile.Outbound

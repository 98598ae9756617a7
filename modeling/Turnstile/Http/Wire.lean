import Turnstile.Http.Message
import Turnstile.Text.Split
/-!
  Messages as they go over a connection.

  A message is a head and a body.  The head is lines of ASCII and ends at the first empty one; its
  fields tell where the body ends: after so many bytes, after the last of its chunks, or with the
  connection.  A `BodyReader` takes the bytes after a head one by one and says when it has enough,
  so a body may come in any pieces (`feedAll_append`).  A message that is written is the last one of
  its side of the connection.
-/

namespace Turnstile.Wire

open Text

/-! ## Heads -/

/-- The bytes of a head and the bytes after its empty line, once that has come. -/
def cutHead : Bytes → Option (Bytes × Bytes)
  | 13 :: 10 :: 13 :: 10 :: r => some ([], r)
  | b :: r => (cutHead r).map fun (head, rest) => (b :: head, rest)
  | [] => none

/-- The lines of a head, each byte of it as one character. -/
def lines (head : Bytes) : List (List Char) :=
  (split '\n' (ofOctets head)).map (dropEndWhile (· = '\r'))

/-- A blank inside a head. -/
def isGap (c : Char) : Bool := c = ' ' ∨ c = '\t'

/-- The field on a line. -/
def field? (line : List Char) : Option (String × HeaderValue) := do
  let (name, value) ← cut ':' line
  let bytes := octets (dropEndWhile isGap (value.dropWhile isGap))
  if isToken name && bytes.all HeaderValue.isAllowed then
    some (String.ofList (lower name), ⟨bytes⟩)
  else none

/-- The first line of a head and its fields. -/
def head? (b : Bytes) : Option (List Char × Headers) :=
  match lines b with
  | [] => none
  | first :: rest => (rest.mapM field?).map fun fields => (first, fields)

/-- The versions that are understood. -/
def versions : List String := ["HTTP/1.1", "HTTP/1.0"]

/-- The method and the target on the first line of a request. -/
def requestLine? (line : List Char) : Option (String × Uri) :=
  match split ' ' line with
  | [method, target, version] =>
    if isToken method && String.ofList version ∈ versions then
      match (decode? (octets target)).map Uri.parse with
      | some (.ok uri) => some (String.ofList method, uri)
      | _ => none
    else none
  | _ => none

/-- The status on the first line of a response. -/
def statusLine? (line : List Char) : Option Nat :=
  match split ' ' line with
  | version :: status :: _ =>
    match numeral 1000 status with
    | .ok n =>
      if String.ofList version ∈ versions ∧ status.length = 3 ∧ 100 ≤ n then some n else none
    | .error _ => none
  | _ => none

/-! ## Bodies -/

/-- Where a body ends. -/
inductive Framing where
  | exactly (n : Nat)
  | chunked
  /-- At the end of the connection. -/
  | untilClose
  deriving DecidableEq, Repr

/-- Where the body after some fields ends, or `standard` if they do not say. -/
def framing? (standard : Framing) (h : Headers) : Option Framing :=
  match Headers.text? h "transfer-encoding" with
  | some t =>
    if (split ',' (lower t)).getLast?.map trim = some "chunked".toList then some .chunked else none
  | none =>
    match Headers.text? h "content-length" with
    | some t =>
      match numeral bound64 (trim t) with
      | .ok n => some (.exactly n)
      | .error _ => none
    | none => some standard

/-- Where the body of a request ends. -/
def requestFraming? (h : Headers) : Option Framing := framing? (.exactly 0) h

/-- Where the body of a response ends.  Some responses never have one. -/
def responseFraming? (method : String) (status : Nat) (h : Headers) : Option Framing :=
  if method = "HEAD" ∨ status < 200 ∨ status = 204 ∨ status = 304 then some (.exactly 0)
  else framing? .untilClose h

/-- What a reader of a body waits for. -/
inductive Awaiting where
  /-- That many bytes. -/
  | bytes (n : Nat)
  | endOfConnection
  /-- The size of a chunk, of which some digits may have come. -/
  | size (n : Nat) (started : Bool)
  /-- The end of the line on which the size of a chunk stands. -/
  | sizeEnd (n : Nat)
  /-- That many bytes of a chunk. -/
  | chunk (n : Nat)
  /-- The end of the line after a chunk. -/
  | chunkEnd
  /-- The empty line after the last chunk. -/
  | trailer (empty : Bool)
  | nothing
  /-- What came is no body. -/
  | sense
  deriving DecidableEq, Repr

/-- What to wait for after the line on which the size of a chunk stands. -/
def Awaiting.afterSize (n : Nat) : Awaiting := if n = 0 then .trailer true else .chunk n

/-- The size of the largest chunk that is read. -/
def maxChunk : Nat := bound32

/-- What to wait for after one more byte, and whether the byte belongs to the body. -/
def Awaiting.next (a : Awaiting) (b : UInt8) : Awaiting × Bool :=
  match a with
  | .bytes n => (if n ≤ 1 then .nothing else .bytes (n - 1), true)
  | .endOfConnection => (.endOfConnection, true)
  | .size n started =>
    match hexValue? (Char.ofUInt8 b) with
    | some d =>
      if n * 16 + d < maxChunk then (.size (n * 16 + d) true, false) else (.sense, false)
    | none =>
      if !started then (.sense, false)
      else if b = 10 then (.afterSize n, false)
      else if b = 13 ∨ b = 59 ∨ b = 32 ∨ b = 9 then (.sizeEnd n, false)
      else (.sense, false)
  | .sizeEnd n => (if b = 10 then .afterSize n else .sizeEnd n, false)
  | .chunk n => (if n ≤ 1 then .chunkEnd else .chunk (n - 1), true)
  | .chunkEnd => (if b = 13 then .chunkEnd else if b = 10 then .size 0 false else .sense, false)
  | .trailer empty =>
    if b = 10 then (if empty then .nothing else .trailer true, false)
    else (.trailer (empty && b = 13), false)
  | .nothing => (.nothing, false)
  | .sense => (.sense, false)

/-- A body that is being read. -/
structure BodyReader where
  awaiting : Awaiting
  /-- The bytes that have come, the last one first. -/
  reversed : Bytes
  deriving DecidableEq, Repr

namespace BodyReader

/-- A reader that has seen no byte yet. -/
def start : Framing → BodyReader
  | .exactly n => ⟨if n = 0 then .nothing else .bytes n, []⟩
  | .chunked => ⟨.size 0 false, []⟩
  | .untilClose => ⟨.endOfConnection, []⟩

/-- Takes a byte. -/
def feed (r : BodyReader) (b : UInt8) : BodyReader :=
  match r.awaiting.next b with
  | (awaiting, true) => ⟨awaiting, b :: r.reversed⟩
  | (awaiting, false) => ⟨awaiting, r.reversed⟩

/-- Takes several bytes. -/
def feedAll (r : BodyReader) (b : Bytes) : BodyReader := b.foldl feed r

/-- Bytes that come in two pieces are read like the whole. -/
theorem feedAll_append (r : BodyReader) (a b : Bytes) :
    r.feedAll (a ++ b) = (r.feedAll a).feedAll b := by
  simp [feedAll]

/-- The body that has come. -/
def body (r : BodyReader) : Bytes := r.reversed.reverse

/-- Whether nothing that comes can matter any more. -/
def isDone (r : BodyReader) : Bool := r.awaiting = .nothing || r.awaiting = .sense

/-- The body, if it is whole when the connection ends. -/
def whole? (r : BodyReader) : Option Bytes :=
  match r.awaiting with
  | .nothing | .endOfConnection => some r.body
  | _ => none

example :
    ((start .chunked).feedAll (bytes "3;x\r\nabc\r\n1\r\nd\r\n0\r\nT: x\r\n\r\nrest")).whole? =
    some (bytes "abcd") := by decide
example : ((start .chunked).feedAll (bytes "g\r\n")).isDone = true := by decide
example : ((start (.exactly 2)).feedAll (bytes "a")).whole? = none := by decide
example : ((start .untilClose).feedAll (bytes "a")).whole? = some (bytes "a") := by decide

end BodyReader

/-! ## Requests and responses -/

/-- The head of a request: method, target, fields, and where the body ends. -/
def requestHead? (head : Bytes) : Option (String × Uri × Headers × Framing) := do
  let (first, fields) ← head? head
  let (method, uri) ← requestLine? first
  let framing ← requestFraming? fields
  pure (method, uri, fields, framing)

/-- The head of the response to a request with the given method: status, fields, and where the body
ends. -/
def responseHead? (method : String) (head : Bytes) : Option (Nat × Headers × Framing) := do
  let (first, fields) ← head? head
  let status ← statusLine? first
  let framing ← responseFraming? method status fields
  pure (status, fields, framing)

/-! ## Writing -/

/-- A first line and fields, with the empty line after them. -/
def headBytes (first : String) (h : Headers) : Bytes :=
  bytes first ++ [13, 10] ++
    (h.flatMap fun (name, v) => bytes name ++ bytes ": " ++ v.bytes ++ [13, 10]) ++ [13, 10]

/-- The field that says that nothing more comes over a connection. -/
def closing : String × HeaderValue := ("connection", .ofString "close")

/-- The words that go with a status. -/
def reason (status : Nat) : String :=
  ([(200, "OK"), (400, "Bad Request"), (404, "Not Found"), (405, "Method Not Allowed"),
    (413, "Payload Too Large"), (429, "Too Many Requests"), (500, "Internal Server Error"),
    (503, "Service Unavailable"), (504, "Gateway Timeout")].lookup status).getD ""

/-- The bytes of a response, after which the connection is closed. -/
def responseBytes (a : Response) : Bytes :=
  headBytes s!"HTTP/1.1 {a.status} {reason a.status}" (a.headers ++ [closing]) ++ a.body

example : requestLine? "GET /a?b HTTP/1.1".toList = some ("GET", ⟨none, none, "/a", some "b"⟩) := by
  cbv
example : statusLine? "HTTP/1.1 204 No Content".toList = some 204 := by decide
example : field? "X-A:  b c\t".toList = some ("x-a", .ofString "b c") := by decide

end Turnstile.Wire

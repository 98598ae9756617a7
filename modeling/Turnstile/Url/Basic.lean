import Turnstile.Text.Blank
import Turnstile.Text.Percent
import Turnstile.Text.Split
/-!
  URLs of destinations.

  A URL is kept in its parts, each as it is written out: percent-encoded where it has to be, scheme
  and host in lower case, and the port only if it is not the usual one of the scheme.  The schemes
  of the web are *special*: their URLs always have a host and a path, and a backslash in them
  separates path segments.  The special scheme of local files has paths that may begin with a drive.

  Tabs and line breaks do not count in the text of a URL.  They leave one trace: in the path of a
  local file they keep the drive at the front apart from what follows.
-/

namespace Turnstile

/-- The path of a URL. -/
inductive UrlPath where
  /-- Text after the scheme that has no segments, as in `mailto:`. -/
  | rootless (text : List Char)
  /-- Each segment follows a slash. -/
  | segments (names : List (List Char))
  deriving DecidableEq, Repr

/-- A URL in its parts. -/
structure Url where
  scheme : List Char
  username : List Char
  password : List Char
  host : Option (List Char)
  /-- Whether a dot keeps a path without a host apart from the scheme, so that it is not read as a
  host. -/
  apart : Bool
  port : Option Nat
  path : UrlPath
  query : Option (List Char)
  fragment : Option (List Char)
  deriving DecidableEq, Repr

/-- Why a text is no URL. -/
inductive UrlError where
  | relative
  | emptyHost
  | invalidName
  | invalidPort
  | invalidIpv4
  | invalidIpv6
  | invalidCharacter
  deriving DecidableEq, Repr

def UrlError.message : UrlError → String
  | .relative => "relative URL without a base"
  | .emptyHost => "empty host"
  | .invalidName => "invalid international domain name"
  | .invalidPort => "invalid port number"
  | .invalidIpv4 => "invalid IPv4 address"
  | .invalidIpv6 => "invalid IPv6 address"
  | .invalidCharacter => "invalid domain character"

namespace Url

open Text

/-! ## Schemes -/

/-- The port that a special scheme uses unless told otherwise. -/
def defaultPort? (scheme : List Char) : Option Nat :=
  if scheme = "http".toList ∨ scheme = "ws".toList then some 80
  else if scheme = "https".toList ∨ scheme = "wss".toList then some 443
  else if scheme = "ftp".toList then some 21
  else none

/-- The scheme of local files, which is special but has no ports. -/
def isFile (scheme : List Char) : Bool := scheme = "file".toList

/-- Whether a scheme is one of the web's own. -/
def isSpecial (scheme : List Char) : Bool := (defaultPort? scheme).isSome || isFile scheme

/-- Whether a scheme is one of HTTP. -/
def isHttp (scheme : List Char) : Bool := scheme = "http".toList ∨ scheme = "https".toList

/-! ## Paths -/

/-- What a segment that is `.` or `..` can be spelled like. -/
def isDot (s : List Char) : Bool := lower s = ['.'] ∨ lower s = "%2e".toList

/-- Every spelling of the segment `..`. -/
def isDotDot (s : List Char) : Bool :=
  lower s = ['.', '.'] ∨ lower s = ".%2e".toList ∨ lower s = "%2e.".toList ∨
    lower s = "%2e%2e".toList

/-- Whether a segment names a drive: a letter, and a colon or a bar. -/
def isDrive : List Char → Bool
  | [letter, c] => letter.isAlpha && (c = ':' || c = '|')
  | _ => false

/-- Whether a segment is a drive, or one and a path on it after a backslash. -/
def entersDrive (s : List Char) : Bool := isDrive s || (isDrive (s.take 2) && s[2]? = some '\\')

/-- The segments, in reverse, that are left when one is gone back.  There is no way back from a
drive. -/
def goBack : List (List Char) → List (List Char)
  | [] => []
  | s :: rest => if entersDrive s then s :: rest else rest

/-- A segment as it is written after others, given in reverse: the drive with which the path of a
local file begins has a colon. -/
def writeSegment (file : Bool) (done : List (List Char)) (s : List Char) : List Char :=
  if file && done.isEmpty && isDrive s then s.take 1 ++ [':'] else Percent.encode Percent.pathSet s

/-- What does not count in the text of a URL. -/
def isDropped (c : Char) : Bool := c = '\t' ∨ c = '\n' ∨ c = '\r'

/-- The characters of a text that count. -/
def counted (t : List Char) : List Char := t.filter (!isDropped ·)

/-- The drive at the front of a segment and the text after it, if a tab or a line break keeps the
two apart. -/
def cutDrive? (s : List Char) : Option (List Char × List Char) :=
  match s.dropWhile isDropped with
  | [] => none
  | letter :: r =>
    match r.dropWhile isDropped with
    | ':' :: c :: r =>
      if letter.isAlpha && isDropped c && !(counted r).isEmpty then some ([letter, ':'], counted r)
      else none
    | _ => none

/-- Resolves the dot segments among some segments, given the ones before them in reverse.  `.`
stands for nothing and `..` goes back; either of them at the end leaves an empty segment.  In front
of the path of a local file, a drive that is kept apart is a segment of its own, and the text after
it is the next one, whatever it is spelled like. -/
def resolve (file : Bool) (done : List (List Char)) : List (List Char) → List (List Char)
  | [] => done.reverse
  | s :: rest =>
    match if file && done.isEmpty then cutDrive? s else none with
    | some (drive, name) => resolve file [Percent.encode Percent.pathSet name, drive] rest
    | none =>
      let s := counted s
      let done := if isDotDot s then goBack done else if isDot s then done
        else writeSegment file done s :: done
      if rest.isEmpty && (isDotDot s || isDot s) then ([] :: done).reverse
      else resolve file done rest

/-- The text between separators, for a scheme: slashes, and for a special one backslashes too. -/
def rawSegments (special : Bool) (t : List Char) : List (List Char) :=
  split '/' (if special then t.map fun c => if c = '\\' then '/' else c else t)

/-- The path that a text denotes under a scheme that has segments.  One separator at the front is
the root.  A special URL always has a path; another one has none if the text is empty or begins like
a query or a fragment. -/
def segmentsOf (scheme : List Char) (t : List Char) : List (List Char) :=
  let first := (counted t).head?
  if !isSpecial scheme && (first = none || first = some '?' || first = some '#') then []
  else match rawSegments (isSpecial scheme) t with
    | s :: rest =>
      if !(counted s).isEmpty then resolve (isFile scheme) [] (s :: rest)
      else if rest.isEmpty then [[]]
      else resolve (isFile scheme) [] rest
    | [] => []

/-- The name in front of a path that does not begin with a separator, and the segments that it
leaves in reverse.  A drive that is kept apart may follow its first character. -/
def frontName (s : List Char) : List Char × List (List Char) :=
  let encoded := Percent.encode Percent.pathSet
  match s.dropWhile isDropped with
  | [] => ([], [])
  | c :: r =>
    match if encoded [c] = [c] then cutDrive? r else none with
    | some (drive, name) => (c :: drive, [encoded name])
    | none => (encoded (c :: counted r), [])

/-- The path that a text denotes for a local file of no named machine.  Where no separator is at the
front, there is nothing to go back to yet, and the first name is kept as it is for good. -/
def localSegments (t : List Char) : List (List Char) :=
  match (rawSegments true t).dropWhile fun s => isDot (counted s) || isDotDot (counted s) with
  | [] => []
  | s :: rest =>
    if (counted s).isEmpty then resolve true [] rest
    else
      let (first, done) := frontName s
      first :: resolve false done rest

/-- The path of a local file does not begin with empty segments. -/
def trimSegments (scheme : List Char) (names : List (List Char)) : List (List Char) :=
  if isFile scheme then
    match names.dropWhile (·.isEmpty) with
    | [] => [[]]
    | rest => rest
  else names

/-! ## Text -/

/-- The text of a path. -/
def pathText : UrlPath → List Char
  | .rootless text => text
  | .segments names => names.flatMap ('/' :: ·)

/-- User name and password, in front of the host. -/
def credentials (u : Url) : List Char :=
  if u.username.isEmpty && u.password.isEmpty then []
  else u.username ++ (if u.password.isEmpty then [] else ':' :: u.password) ++ ['@']

/-- What stands between the scheme and the path. -/
def authority (u : Url) : List Char :=
  match u.host with
  | some host =>
    "//".toList ++ u.credentials ++ host ++
      (match u.port with
        | some port => ':' :: Nat.toDigits 10 port
        | none => [])
  | none => if u.apart then "/.".toList else []

/-- The text of a URL. -/
def text (u : Url) : List Char :=
  u.scheme ++ ':' :: u.authority ++ pathText u.path ++
    (match u.query with
      | some query => '?' :: query
      | none => []) ++
    (match u.fragment with
      | some fragment => '#' :: fragment
      | none => [])

instance : ToString Url := ⟨fun u => String.ofList u.text⟩

/-! ## Setting parts -/

/-- The URL with the path that a text denotes.  What stands before the path stays.  A slash in front
of text without segments is encoded, so that it does not begin a path. -/
def setPath (u : Url) (t : List Char) : Url :=
  match u.path with
  | .rootless _ =>
    let escaped := match t with
      | '/' :: r => "%2F".toList ++ r
      | r => r
    { u with path := .rootless (Percent.encode Percent.controls (counted escaped)) }
  | .segments _ =>
    let names := if isFile u.scheme && u.host = some [] then localSegments t
      else segmentsOf u.scheme t
    { u with path := .segments (trimSegments u.scheme names) }

/-- The characters that are encoded in the query of a URL with the given scheme. -/
def queryEncoding (scheme : List Char) : Char → Bool :=
  if isSpecial scheme then Percent.specialQuerySet else Percent.querySet

/-- The URL with another query, or without one. -/
def setQuery (u : Url) (query : Option (List Char)) : Url :=
  { u with query := query.map fun q =>
      Percent.encode (queryEncoding u.scheme) (counted q) }

example : segmentsOf "http".toList "/a/b/../c/.".toList = ["a".toList, "c".toList, []] := by decide
example : segmentsOf "ws".toList "//a//%2E%2e/x y".toList = [[], "a".toList, "x%20y".toList] := by
  decide
example : segmentsOf "http".toList "/a/C|/../b".toList = ["a".toList, "C|".toList, "b".toList] := by
  decide
example : segmentsOf "file".toList "\\x\\..\\c|\\..".toList = ["c:".toList, []] := by decide
example : segmentsOf "file".toList "/c:\n../x".toList = ["c:".toList, "..".toList, "x".toList] := by
  decide
example : localSegments "../C|/../y".toList = ["C|".toList, "y".toList] := by decide
example : segmentsOf "http".toList [] = [[]] ∧ segmentsOf "x".toList "?a/b".toList = [] := by decide

end Url

end Turnstile

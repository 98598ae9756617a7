import Turnstile.Url.Host
/-!
  Reading absolute URLs.

  Controls and spaces at the ends, and tabs and line breaks anywhere, do not count.  The parts are
  read from left to right, and the first one that is wrong decides.
-/

namespace Turnstile.Url

open Text

/-- A text without the controls and spaces at its ends. -/
def trimmed (s : String) : List Char :=
  let ignored := fun (c : Char) => c.toNat ≤ 0x20
  dropEndWhile ignored (s.toList.dropWhile ignored)

/-- The scheme in lower case and the text after its colon. -/
def splitScheme? (t : List Char) : Option (List Char × List Char) :=
  let inScheme := fun (c : Char) => c.isAlphanum || c ∈ ['+', '-', '.'] || isDropped c
  match t with
  | [] => none
  | c :: _ =>
    if c.isAlpha then
      match t.dropWhile inScheme with
      | ':' :: r => some (lower (counted (t.takeWhile inScheme)), r)
      | _ => none
    else none

/-- Where an authority ends. -/
def endsAuthority (special : Bool) (c : Char) : Bool :=
  c = '/' || c = '?' || c = '#' || (special && c = '\\')

/-- User name, password, and the rest of an authority.  Where the sign that ends the first two
stands alone, nothing may follow the authority. -/
def splitCredentials (authority following : List Char) :
    Except UrlError (List Char × List Char × List Char) :=
  match cutLast '@' authority with
  | none => .ok ([], [], authority)
  | some (info, rest) =>
    if info.isEmpty && rest.isEmpty && !following.isEmpty then .error .emptyHost
    else
      let encoded := Percent.encode Percent.userinfoSet
      match cut ':' info with
      | none => .ok (encoded info, [], rest)
      | some (username, password) => .ok (encoded username, encoded password, rest)

/-- The text before the first colon outside brackets, and the text after it. -/
def splitPort (inside : Bool) : List Char → List Char × Option (List Char)
  | [] => ([], none)
  | c :: r =>
    if c = ':' && !inside then ([], some r)
    else
      let (host, port) := splitPort (c = '[' || (inside && c ≠ ']')) r
      (c :: host, port)

/-- The port that a text denotes: none if it is empty or the usual one of the scheme. -/
def portOf (scheme : List Char) (t : List Char) : Except UrlError (Option Nat) :=
  if t.isEmpty then .ok none
  else match accumulate bound16 0 t with
    | .ok n => .ok (if defaultPort? scheme = some n then none else some n)
    | .error _ => .error .invalidPort

/-- The digits of a port and what is after them, if a backslash ends them. -/
def splitDigits (t : List Char) : List Char × List Char :=
  match t.dropWhile Char.isDigit with
  | '\\' :: r => (t.takeWhile Char.isDigit, '\\' :: r)
  | _ => (t, [])

/-- Host and port of the part of an authority after the credentials, and what of it belongs to the
path already. -/
def hostAndPort (scheme : List Char) (t : List Char) :
    Except UrlError (List Char × Option Nat × List Char) := do
  let (host, port) := splitPort false t
  if isSpecial scheme && host.isEmpty then .error .emptyHost
  let name ← if isSpecial scheme then specialHost host else otherHost host
  if name.isEmpty && port.isSome then .error .emptyHost
  let (digits, spill) := splitDigits (port.getD [])
  pure (name, ← portOf scheme digits, spill)

/-- Path, query and fragment of the text after an authority. -/
def tails (t : List Char) : List Char × Option (List Char) × Option (List Char) :=
  let (beforeFragment, fragment) := match cut '#' t with
    | some (a, b) => (a, some b)
    | none => (t, none)
  match cut '?' beforeFragment with
  | some (path, query) => (path, some query, fragment)
  | none => (beforeFragment, none, fragment)

/-- A URL with an authority, given the text after its slashes. -/
def withAuthority (scheme : List Char) (t : List Char) : Except UrlError Url := do
  let ends := endsAuthority (isSpecial scheme)
  let authority := t.takeWhile (!ends ·)
  let following := t.dropWhile (!ends ·)
  let (username, password, rest) ← splitCredentials authority following
  let (host, port, spill) ← hostAndPort scheme rest
  if host.isEmpty && !(username.isEmpty && password.isEmpty) then .error .emptyHost
  let (path, query, fragment) := tails (spill ++ following)
  pure
    { scheme, username, password
      host := some host
      apart := false
      port
      path := .segments (segmentsOf scheme path)
      query := query.map (Percent.encode (queryEncoding scheme))
      fragment := fragment.map (Percent.encode Percent.fragmentSet) }

/-- Whether two slashes would be the beginning of a path. -/
def beginsTwice : UrlPath → Bool
  | .segments ([] :: _ :: _) => true
  | _ => false

/-- A URL without an authority, given the text after its scheme. -/
def withoutAuthority (scheme : List Char) (t : List Char) : Url :=
  let (text, query, fragment) := tails t
  let path := if text.head? = some '/' then .segments (segmentsOf scheme text)
    else .rootless (Percent.encode Percent.controls text)
  { scheme
    username := []
    password := []
    host := none
    apart := beginsTwice path
    port := none
    path
    query := query.map (Percent.encode (queryEncoding scheme))
    fragment := fragment.map (Percent.encode Percent.fragmentSet) }

/-- The slashes, of either kind. -/
def isSlash (c : Char) : Bool := c = '/' || c = '\\'

/-- What follows the slash with which a text begins. -/
def afterSlash? (t : List Char) : Option (List Char) :=
  match t.dropWhile isDropped with
  | c :: r => if isSlash c then some r else none
  | [] => none

/-- The machine that the URL of a local file names, and the text of its path and of all that comes
after it.  A machine is named after two slashes, and a drive is none.  Where no machine is named,
one more slash stands before the path. -/
def machineAndPath (t : List Char) : Except UrlError (List Char × List Char) :=
  match afterSlash? t with
  | none => .ok ([], '/' :: t)
  | some r =>
    match afterSlash? r with
    | none => .ok ([], '/' :: r)
    | some r =>
      let name := counted (r.takeWhile (!endsAuthority true ·))
      let following := r.dropWhile (!endsAuthority true ·)
      if isDrive name then .ok ([], '/' :: r)
      else if name.isEmpty then .ok ([], '/' :: following)
      else do
        let host ← specialHost name
        pure (if host = "localhost".toList then ([], '/' :: following) else (host, following))

/-- The URL of a local file, given the text after its scheme.  A path that begins with a drive is
one of this machine, whatever machine is named before it. -/
def localFile (scheme : List Char) (t : List Char) : Except UrlError Url := do
  let (host, text) ← machineAndPath t
  let (path, query, fragment) := tails text
  let onDrive := (segmentsOf scheme (counted path)).head?.any isDrive
  pure
    { scheme
      username := []
      password := []
      host := some (if onDrive then [] else host)
      apart := false
      port := none
      path := .segments (trimSegments scheme (segmentsOf scheme path))
      query := query.map fun q => Percent.encode (queryEncoding scheme) (counted q)
      fragment := fragment.map fun f => Percent.encode Percent.fragmentSet (counted f) }

/-- The URL that a string denotes. -/
def parse (s : String) : Except UrlError Url :=
  match splitScheme? (trimmed s) with
  | none => .error .relative
  | some (scheme, t) =>
    if isFile scheme then localFile scheme t
    else if isSpecial scheme then withAuthority scheme ((counted t).dropWhile isSlash)
    else match counted t with
      | '/' :: '/' :: r => withAuthority scheme r
      | r => .ok (withoutAuthority scheme r)

example : (parse "  HTTP://User@Trim.me:80/a/../b?x=1#f  ").toOption.map (String.ofList ·.text) =
    some "http://User@trim.me/b?x=1#f" := by decide +kernel
example : (parse "mailto:a@b").toOption.map (String.ofList ·.text) = some "mailto:a@b" := by
  decide +kernel
example : (parse "file:\\\\host\\c|\\..\\d").toOption.map (String.ofList ·.text) =
    some "file:///c:/d" := by decide +kernel
example : (parse "file:///c|/d").toOption.map (String.ofList ·.text) = some "file:///c|/d" := by
  decide +kernel
example : (parse "file:c:\nd?q\n").toOption.map (String.ofList ·.text) = some "file:///c:/d?q" := by
  decide +kernel
example : (parse "x://h:80\\a").toOption.map (String.ofList ·.text) = some "x://h:80/\\a" := by
  decide +kernel
example : parse "//h" = .error .relative := by rfl
example : parse "http:///" = .error .emptyHost := by rfl
example : parse "http://h:99999" = .error .invalidPort := by rfl

end Turnstile.Url

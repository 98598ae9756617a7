import Turnstile.Text.Blank
import Turnstile.Text.Split
import Turnstile.Text.Utf8
/-!
  Request targets.

  A target is a path with an optional query, or an absolute URI, or an authority alone, or `*`.  It
  is taken as it stands: nothing is decoded, and characters outside ASCII are allowed in path and
  query.  A fragment is dropped.  `Uri.parse` checks the characters of each part; where several
  things are wrong, the first part that is wrong decides, from left to right.
-/

namespace Turnstile

/-- A request target. -/
structure Uri where
  scheme : Option String
  authority : Option String
  path : String
  query : Option String
  deriving DecidableEq, Repr

/-- Why a text is no request target. -/
inductive UriError where
  | invalidCharacter
  | invalidAuthority
  | invalidFormat
  | schemeTooLong
  | empty
  | tooLong
  deriving DecidableEq, Repr

def UriError.message : UriError → String
  | .invalidCharacter => "invalid uri character"
  | .invalidAuthority => "invalid authority"
  | .invalidFormat => "invalid format"
  | .schemeTooLong => "scheme too long"
  | .empty => "empty string"
  | .tooLong => "uri too long"

namespace Uri

open Text

/-! ## Path and query -/

/-- What may stand in a path. -/
def isPathChar (c : Char) : Bool :=
  0x20 < c.toNat && c ∉ ['#', '<', '>', '?', '\x60', '\x7f']

/-- What may stand in a query. -/
def isQueryChar (c : Char) : Bool :=
  0x20 < c.toNat && c ∉ ['"', '#', '<', '>', '\x7f']

/-- The path and the query of the text after an authority.  An empty path counts as `/`. -/
def pathAndQuery (t : List Char) : Except UriError (String × Option String) :=
  let path := t.takeWhile fun c => c ≠ '?' ∧ c ≠ '#'
  let slashed := if path.isEmpty then "/" else String.ofList path
  if !path.all isPathChar then .error .invalidCharacter
  else match t.dropWhile fun c => c ≠ '?' ∧ c ≠ '#' with
    | '?' :: r =>
      let query := before '#' r
      if query.all isQueryChar then .ok (slashed, some (String.ofList query))
      else .error .invalidCharacter
    | _ => .ok (slashed, none)

/-! ## Authority -/

/-- What may stand in an authority, apart from `%`. -/
def isAuthorityChar (c : Char) : Bool :=
  c.isAlphanum || c ∈ "!$&'()*+,-.:;=@[]_~".toList

/-- What has been seen of an authority since its last `@` or `]`. -/
structure AuthorityScan where
  colons : Nat
  opened : Bool
  closed : Bool
  percent : Bool

/-- Reads one character of an authority. -/
def scanAuthority (s : AuthorityScan) (c : Char) : Except UriError AuthorityScan :=
  if c = ':' then
    if 8 ≤ s.colons then .error .invalidAuthority else .ok { s with colons := s.colons + 1 }
  else if c = '[' then
    if s.percent || s.opened then .error .invalidAuthority else .ok { s with opened := true }
  else if c = ']' then
    if !s.opened || s.closed then .error .invalidAuthority
    else .ok { s with closed := true, colons := 0, percent := false }
  else if c = '@' then .ok { s with colons := 0, percent := false }
  else if c = '%' then .ok { s with percent := true }
  else if isAuthorityChar c then .ok s
  else .error .invalidCharacter

/-- Checks an authority: brackets in pairs, at most one colon outside them, `%` only in the user
part or in brackets, and something after an `@`. -/
def checkAuthority (t : List Char) : Except UriError Unit := do
  let s ← t.foldlM scanAuthority ⟨0, false, false, false⟩
  if s.opened != s.closed || 1 < s.colons || t.getLast? = some '@' || s.percent then
    .error .invalidAuthority
  else .ok ()

/-- The end of an authority. -/
def endsAuthority (c : Char) : Bool := c ∈ ['/', '?', '#']

/-- The host of an authority: what follows the last `@`, without a port; brackets are kept. -/
def hostOf (authority : List Char) : List Char :=
  let t := match cutLast '@' authority with
    | some (_, r) => r
    | none => authority
  if t.head? = some '[' then t.takeWhile (· ≠ ']') ++ [']'] else before ':' t

/-! ## The whole target -/

/-- What may stand in a scheme. -/
def isSchemeChar (c : Char) : Bool := c.isAlphanum || c ∈ ['+', '-', '.', '~']

/-- The scheme before `://` and the text after it.  The mark alone is no scheme. -/
def scheme? (t : List Char) : Option (List Char × List Char) :=
  if t = "://".toList then none
  else match t.dropWhile isSchemeChar with
    | ':' :: '/' :: '/' :: r => some (t.takeWhile isSchemeChar, r)
    | _ => none

/-- Schemes that are shown in lower case. -/
def schemeText (t : List Char) : String :=
  if lower t = "http".toList ∨ lower t = "https".toList then String.ofList (lower t)
  else String.ofList t

/-- A target that consists of an authority alone. -/
def authorityForm (t : List Char) (ifLonger : UriError) : Except UriError Uri := do
  let authority := t.takeWhile (!endsAuthority ·)
  checkAuthority authority
  if authority.length = t.length then .ok ⟨none, some (String.ofList t), "", none⟩
  else .error ifLonger

/-- The target that a text denotes. -/
def parseChars (t : List Char) : Except UriError Uri :=
  if 65534 < (encode t).length then .error .tooLong
  else match t with
    | [] => .error .empty
    | ['*'] => .ok ⟨none, none, "*", none⟩
    | '/' :: _ => do
      let (path, query) ← pathAndQuery t
      pure ⟨none, none, path, query⟩
    | [_] => authorityForm t .invalidCharacter
    | _ =>
      match scheme? t with
      | none => authorityForm t .invalidFormat
      | some (scheme, rest) => do
        if 64 < scheme.length then .error .schemeTooLong
        if rest.isEmpty then .error .empty
        let authority := rest.takeWhile (!endsAuthority ·)
        checkAuthority authority
        if authority.isEmpty then .error .invalidFormat
        let (path, query) ← pathAndQuery (rest.dropWhile (!endsAuthority ·))
        pure ⟨some (schemeText scheme), some (String.ofList authority), path, query⟩

/-- The target that a string denotes. -/
def parse (s : String) : Except UriError Uri := parseChars s.toList

/-- The host that a target names. -/
def host? (u : Uri) : Option (List Char) := u.authority.map fun a => hostOf a.toList

/-- The text of a target. -/
def toString (u : Uri) : String :=
  (match u.scheme with
    | some scheme => scheme ++ "://"
    | none => "") ++
  u.authority.getD "" ++ u.path ++
  (match u.query with
    | some query => "?" ++ query
    | none => "")

instance : ToString Uri := ⟨Uri.toString⟩

example : parse "/a/b?x=1#f" = .ok ⟨none, none, "/a/b", some "x=1"⟩ := rfl
example : parse "HTTP://h.example" = .ok ⟨some "http", some "h.example", "/", none⟩ := rfl
example : parse "http://[::1" = .error .invalidAuthority := rfl
example : parse "a b" = .error .invalidCharacter := rfl
example : parse "http://" = .error .empty ∧ parse "://" = .error .invalidFormat := ⟨rfl, rfl⟩
example : hostOf "u:p@[::1]:80".toList = "[::1]".toList := by decide

end Uri

end Turnstile

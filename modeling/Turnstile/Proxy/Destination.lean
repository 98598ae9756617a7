import Turnstile.Http.Uri
import Turnstile.Proxy.Path
import Turnstile.Url.Parse
/-!
  Where a route sends its requests.

  A destination has a base URL, whose path stays in front; a number of segments that the route
  strips from the path of a request; and a path that is put between the two.  The query is that of
  the request.
-/

namespace Turnstile

/-- Where a route sends its requests. -/
structure Destination where
  /-- The name of the route, for messages. -/
  name : String
  base : Url
  /-- How many segments of a request's path belong to the route. -/
  strip : Nat
  /-- The path in front of what is left of a request's path. -/
  lead : List Char
  deriving DecidableEq, Repr

namespace Destination

open Text

/-- The destination with the given base URL. -/
def create (name url : String) (strip : Nat) : Except UrlError Destination :=
  (Url.parse url).map fun base => ⟨name, base, strip, []⟩

/-- A new destination strips what it is told to, and puts nothing in front. -/
theorem create_cases {name url : String} {strip : Nat} {d : Destination}
    (h : create name url strip = .ok d) : d.strip = strip ∧ d.lead = [] := by
  unfold create at h
  cases hparse : Url.parse url with
  | error e =>
    rw [hparse] at h
    cases h
  | ok base =>
    rw [hparse] at h
    cases h
    exact ⟨rfl, rfl⟩

/-- The destination with another path in front; slashes at its end do not count. -/
def withLead (d : Destination) (path : String) : Destination :=
  { d with lead := dropEndWhile (· = '/') path.toList }

/-- The path of the base URL without slashes at its end. -/
def basePath (d : Destination) : List Char := dropEndWhile (· = '/') (Url.pathText d.base.path)

/-- The path of a base that has segments begins with a slash, if there is one. -/
theorem head?_basePath {d : Destination} {names : List (List Char)}
    (hd : d.base.path = .segments names) : d.basePath = [] ∨ d.basePath.head? = some '/' := by
  obtain ⟨rest, hrest⟩ : d.basePath <+: Url.pathText d.base.path := dropEndWhile_isPrefix _ _
  rw [hd] at hrest
  cases hpath : d.basePath with
  | nil => exact .inl rfl
  | cons c r =>
    right
    rw [hpath] at hrest
    cases names with
    | nil => cases hrest
    | cons name more =>
      rw [List.cons_append] at hrest
      exact congrArg some (List.cons.inj hrest).1

/-- The URL for a request target. -/
def urlFor (d : Destination) (target : Uri) : Url :=
  (d.base.setPath (d.basePath ++ d.lead ++ Proxy.stripSegments d.strip target.path.toList)).setQuery
    (target.query.map (·.toList))

end Destination

end Turnstile

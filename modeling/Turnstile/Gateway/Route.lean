import Turnstile.Http.Reply
import Turnstile.Proxy.Forward
/-!
  The routes of the gateway that lead to destinations.

  A route serves the paths of a pattern: one path, or a path with everything below it.  A request
  goes through the filters of the route; what they let through is stamped, forwarded, and the answer
  is stamped.  The filters keep their state between requests, so serving gives back the route after
  it.
-/

namespace Turnstile

/-- Which paths a route serves. -/
inductive PathPattern where
  | exactly (path : String)
  /-- A path, and every path that goes on after a slash. -/
  | under (path : String)
  deriving DecidableEq, Repr

namespace PathPattern

/-- Whether a path belongs to a pattern. -/
def accepts (p : PathPattern) (path : List Char) : Bool :=
  match p with
  | exactly own => path = own.toList
  | under own =>
    match own.toList.isPrefixOf? path with
    | some [] => true
    | some (c :: _) => c = '/'
    | none => false

example : (under "/api").accepts "/api/".toList = true := by decide
example : (under "/api").accepts "/apix".toList = false := by decide

end PathPattern

/-- A route that leads to a destination. -/
structure Route where
  pattern : PathPattern
  /-- The filters in front of the destination, outermost first. -/
  filters : List Filter
  /-- A header field that forwarded requests get. -/
  requestStamp : Option (String × HeaderValue)
  /-- A header field that is added to answers. -/
  responseStamp : Option (String × HeaderValue)
  destination : Destination

namespace Route

/-- A request as the destination gets it. -/
def stampRequest (route : Route) (r : Request) : Request :=
  match route.requestStamp with
  | some (name, v) => { r with headers := Headers.insert r.headers name v }
  | none => r

/-- An answer as the filters get it. -/
def stampResponse (route : Route) (a : Response) : Response :=
  match route.responseStamp with
  | some (name, v) => { a with headers := Headers.append a.headers name v }
  | none => a

/-- The stage behind the filters. -/
def stage {σ : Type} (limit : Nat) (net : Network σ) (route : Route) : Stage σ := fun r s =>
  match Proxy.stage limit net route.destination (route.stampRequest r) s with
  | (.answered a, s) => (.answered (route.stampResponse a), s)
  | other => other

/-- The response to an outcome.  A destination always comes to an answer. -/
def responseTo : Outcome → Response
  | .answered a => a
  | _ => .bare 500

/-- Serves a request. -/
def serve {σ : Type} (limit : Nat) (net : Network σ) (fresh : HeaderValue) (route : Route)
    (r : Request) (s : Scene σ) : Response × Route × Scene σ :=
  let (o, filters, s) := Filter.serveThrough fresh (route.stage limit net) route.filters r s
  (responseTo o, { route with filters }, s)

/-- Serves a request by the first route whose pattern its path belongs to. -/
def serveFirst {σ : Type} (limit : Nat) (net : Network σ) (fresh : HeaderValue) (r : Request)
    (s : Scene σ) : List Route → Option (Response × List Route × Scene σ)
  | [] => none
  | route :: rest =>
    if route.pattern.accepts r.uri.path.toList then
      let (a, route, s) := route.serve limit net fresh r s
      some (a, route :: rest, s)
    else (serveFirst limit net fresh r s rest).map fun (a, rest, s) => (a, route :: rest, s)

section

variable {σ : Type} (limit : Nat) (net : Network σ) (fresh : HeaderValue) (r : Request)
  (s : Scene σ)

/-- **By position**: a request is served by the first route for its path, and this route alone is
put in the place of what it was. -/
theorem serveFirst_eq (routes : List Route) :
    serveFirst limit net fresh r s routes =
      (routes.findIdx? fun route => route.pattern.accepts r.uri.path.toList).bind fun i =>
        routes[i]?.map fun route =>
          ((route.serve limit net fresh r s).1,
            routes.set i (route.serve limit net fresh r s).2.1,
            (route.serve limit net fresh r s).2.2) := by
  induction routes with
  | nil => rfl
  | cons route rest ih =>
    rw [serveFirst, List.findIdx?_cons]
    by_cases haccepts : route.pattern.accepts r.uri.path.toList = true
    · rw [if_pos haccepts, if_pos haccepts]
      rfl
    · rw [if_neg haccepts, if_neg haccepts, ih, Option.map_bind, Option.bind_map]
      refine Option.bind_congr fun i _ => ?_
      cases hroute : rest[i]? with
      | none => simp [hroute]
      | some route => simp [hroute]

variable {limit net fresh r s}

/-- If a request is served, then by the first route for its path. -/
theorem exists_of_serveFirst {routes after : List Route} {a : Response} {s' : Scene σ}
    (h : serveFirst limit net fresh r s routes = some (a, after, s')) :
    ∃ i route, (routes.findIdx? fun route => route.pattern.accepts r.uri.path.toList) = some i ∧
      routes[i]? = some route ∧ a = (route.serve limit net fresh r s).1 ∧
      after = routes.set i (route.serve limit net fresh r s).2.1 ∧
      s' = (route.serve limit net fresh r s).2.2 := by
  rw [serveFirst_eq] at h
  obtain ⟨i, hi, h⟩ := Option.bind_eq_some_iff.mp h
  obtain ⟨route, hroute, h⟩ := Option.map_eq_some_iff.mp h
  cases h
  exact ⟨i, route, hi, hroute, rfl, rfl, rfl⟩

end

end Route

end Turnstile

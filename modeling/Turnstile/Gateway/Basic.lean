import Turnstile.Gateway.Route
/-!
  The gateway: its routes, and what it does with every request.

  A request gets a name before anything else, and its response carries that name and the name of the
  gateway, whatever route it took, and also if there was none.  Beside the routes that lead to
  destinations there are a few that the gateway serves itself.
-/

namespace Turnstile

/-- The routes that the gateway serves itself. -/
inductive LocalRoute where
  /-- The document that stands in for destinations that fail. -/
  | fallback
  /-- The index of the management routes. -/
  | actuator
  | health
  | info
  deriving DecidableEq, Repr

namespace LocalRoute

/-- The path of a route. -/
def path : LocalRoute → String
  | fallback => "/fallback"
  | actuator => "/actuator"
  | health => "/actuator/health"
  | info => "/actuator/info"

/-- The route at a path. -/
def at? (p : String) : Option LocalRoute :=
  [fallback, actuator, health, info].find? fun l => l.path == p

/-- Whether a route serves every method. -/
def takesAnyMethod (l : LocalRoute) : Bool := l = fallback

/-- The index of the management routes. -/
def index : Json :=
  let link (l : LocalRoute) : Json := .object [("href", .string l.path)]
  .object [("_links",
    .object [("health", link health), ("info", link info), ("self", link actuator)])]

end LocalRoute

/-- The gateway. -/
structure Gateway where
  /-- The name of the gateway, and the same as a header value. -/
  title : String
  stamp : HeaderValue
  /-- The bytes that a forwarded body may have. -/
  maxBody : Nat
  /-- When the gateway was started. -/
  started : Nat
  routes : List Route

/-- What is logged about a request while it is served. -/
structure Span where
  method : String
  uri : String
  requestId : String
  deriving DecidableEq, Repr

namespace Gateway

/-- The version of the gateway. -/
def version : String := "0.1.0"

/-- The field that names the gateway on every response. -/
def stampName : String := "x-gateway"

/-- The whole seconds since the gateway was started. -/
def uptime (g : Gateway) (now : Nat) : Nat := Duration.secs (now - g.started)

/-- The answer of a route that the gateway serves itself. -/
def localAnswer {σ : Type} (g : Gateway) (s : Scene σ) : LocalRoute → Response
  | .fallback => .fallback 503 s.wall
  | .actuator => .json 200 LocalRoute.index
  | .health =>
    .json 200 (.object [("status", .string "UP"), ("uptime_seconds", .number (g.uptime s.now))])
  | .info =>
    .json 200 (.object [("app", .object [("name", .string g.title), ("version", .string version)])])

/-- Serves a request by its route. -/
def serveByRoute {σ : Type} (net : Network σ) (fresh : HeaderValue) (g : Gateway) (r : Request)
    (s : Scene σ) : Response × Gateway × Scene σ :=
  match LocalRoute.at? r.uri.path with
  | some l =>
    if l.takesAnyMethod || isReading r.method then
      (.ofRoute r.method (g.localAnswer s l), g, s)
    else (.onlyReading, g, s)
  | none =>
    match Route.serveFirst g.maxBody net fresh r s g.routes with
    | some (a, routes, s) => (.ofRoute r.method a, { g with routes }, s)
    | none => (.unknown r.uri.path, g, s)

/-- What is logged about a request that has its name. -/
def spanOf (r : Request) : Span :=
  ⟨r.method, r.uri.toString,
    match Headers.text? r.headers Filter.requestIdName with
    | some t => String.ofList t
    | none => ""⟩

/-- The response with the name of the gateway. -/
def stamped (g : Gateway) (a : Response) : Response :=
  { a with headers := Headers.insert a.headers stampName g.stamp }

/-- Serves a request whose name, should it bring none, is `fresh`. -/
def serve {σ : Type} (net : Network σ) (fresh : HeaderValue) (g : Gateway) (r : Request)
    (s : Scene σ) : Response × Span × Gateway × Scene σ :=
  let id := Filter.requestIdFor fresh r.headers
  let named := { r with headers := Headers.insert r.headers Filter.requestIdName id }
  let (a, g', s) := g.serveByRoute net fresh named s
  let a := g.stamped a
  ({ a with headers := Headers.insert a.headers Filter.requestIdName id }, spanOf named, g', s)

/-- Forgets, in every rate gate, the keys that behave like new ones. -/
def prune (g : Gateway) (now : Nat) : Gateway :=
  { g with routes := g.routes.map fun route =>
      { route with filters := Filter.pruneFirst now route.filters } }

end Gateway

end Turnstile

import Turnstile.Proofs.Gateway.Traffic
import Turnstile.Proofs.Proxy.Path
/-!
  The routes that serve a path with everything below it.

  1. **Position** (`Gateway.routeAt?`, `serve_of_routeAt?`) — a route is known by its position,
     which it keeps for good.  A request is served by the first route for its path, whatever its
     method, and this route alone is put in the place of what it was.

  2. **Which paths come to a route** (`routeAt?_eq_some_iff`) — those that its pattern accepts,
     since no path belongs to two routes.

  3. **One set of filters** (`Reached.getElem?_run`) — what a route keeps in its filters is what all
     the requests for its pattern have made of it, one after the other.  There is no other copy of
     them for some form of the path or for some method.

  4. **Forms** (`accepts_under_iff_exists_form`) — such a route is registered under three forms: its
     path, its path with a slash, and this with anything behind it, but something.  Its pattern is
     all of them, and nothing else.

  5. **Headline** (`prefix_route`) — and what such a route strips is its own path and no more
     (`Proxy.stripSegments_append`).
-/

namespace Turnstile

namespace Route

/-- Where no path belongs to two routes, the first for a path is at any position whose route accepts
it. -/
theorem findIdx?_eq_some_iff {routes : List Route}
    (apart : routes.Pairwise fun a b => a.pattern.Apart b.pattern) {path : List Char} {i : Nat} :
    (routes.findIdx? fun route => route.pattern.accepts path) = some i ↔
      ∃ route, routes[i]? = some route ∧ route.pattern.accepts path = true := by
  rw [List.findIdx?_eq_some_iff_getElem]
  constructor
  · rintro ⟨hi, haccepts, -⟩
    exact ⟨routes[i], List.getElem?_eq_getElem hi, haccepts⟩
  · rintro ⟨route, hroute, haccepts⟩
    obtain ⟨hi, rfl⟩ := List.getElem?_eq_some_iff.mp hroute
    refine ⟨hi, haccepts, fun j hj hearlier => ?_⟩
    -- a route in front would have the path too
    have happart := List.pairwise_iff_getElem.mp apart j i (Nat.lt_trans hj hi) hi hj
    rw [happart.not_accepts hearlier] at haccepts
    cases haccepts

end Route

namespace Gateway

/-- The position of the route that leads a path to a destination, if there is one. -/
def routeAt? (g : Gateway) (path : String) : Option Nat :=
  match LocalRoute.at? path with
  | some _ => none
  | none => g.routes.findIdx? fun route => route.pattern.accepts path.toList

/-- A request whose path has a route is served by this route, whatever its method; and this route
alone is put in the place of what it was. -/
theorem serve_of_routeAt? {σ : Type} (net : Network σ) (fresh : HeaderValue) {g : Gateway}
    {r : Request} (s : Scene σ) {i : Nat} {route : Route} (hi : g.routeAt? r.uri.path = some i)
    (hroute : g.routes[i]? = some route) :
    g.serve net fresh r s =
      let (a, after, s') := route.serve g.maxBody net fresh (r.named fresh) s
      (g.signed (Filter.requestIdFor fresh r.headers) (.ofRoute r.method a),
        spanOf (r.named fresh), { g with routes := g.routes.set i after }, s') := by
  unfold routeAt? at hi
  rw [serve_eq]
  unfold serveByRoute
  have hpath : (r.named fresh).uri = r.uri := rfl
  rw [hpath]
  cases hlocal : LocalRoute.at? r.uri.path with
  | some l =>
    rw [hlocal] at hi
    cases hi
  | none =>
    rw [hlocal] at hi
    dsimp only at hi ⊢
    rw [Route.serveFirst_eq, hpath, hi]
    simp only [Option.bind_some, hroute, Option.map_some]
    rfl

/-- Where no path belongs to two routes, the paths that come to a route are those that its pattern
accepts. -/
theorem routeAt?_eq_some_iff {g : Gateway}
    (apart : g.routes.Pairwise fun a b => a.pattern.Apart b.pattern)
    (apart_local : ∀ l : LocalRoute, ∀ route ∈ g.routes,
      (PathPattern.exactly l.path).Apart route.pattern) {path : String} {i : Nat} :
    g.routeAt? path = some i ↔
      ∃ route, g.routes[i]? = some route ∧ route.pattern.accepts path.toList = true := by
  unfold routeAt?
  cases hlocal : LocalRoute.at? path with
  | none => exact Route.findIdx?_eq_some_iff apart
  | some l =>
    refine ⟨fun h => (nomatch h), fun ⟨route, hroute, haccepts⟩ => ?_⟩
    have hown : (PathPattern.exactly l.path).accepts path.toList = true := by
      rw [LocalRoute.path_of_at? hlocal]
      exact decide_eq_true rfl
    rw [(apart_local l route (List.mem_of_getElem? hroute)).not_accepts hown] at haccepts
    cases haccepts

/-! ## Gateways that have been reached -/

variable {s : Settings} {g : Gateway}

theorem Reached.patterns_eq (h : Reached s g) :
    ∃ (now : Nat) (p : Parts s now), g.routes.map (·.pattern) = p.routes.map (·.pattern) := by
  obtain ⟨now, p, hp⟩ := h.asNew_eq
  have hroutes : (g.routes.map Route.asNew).map (·.pattern) =
      (p.routes.map Route.asNew).map (·.pattern) := congrArg (·.routes.map (·.pattern)) hp
  rw [List.map_map, List.map_map] at hroutes
  exact ⟨now, p, hroutes⟩

theorem Reached.apart (h : Reached s g) :
    g.routes.Pairwise fun a b => a.pattern.Apart b.pattern := by
  obtain ⟨now, p, hpatterns⟩ := h.patterns_eq
  refine List.pairwise_map.mp (?_ : (g.routes.map (·.pattern)).Pairwise PathPattern.Apart)
  rw [hpatterns]
  exact List.pairwise_map.mpr p.apart

theorem Reached.apart_local (h : Reached s g) (l : LocalRoute) :
    ∀ route ∈ g.routes, (PathPattern.exactly l.path).Apart route.pattern := by
  obtain ⟨now, p, hpatterns⟩ := h.patterns_eq
  intro route hroute
  have hmem : route.pattern ∈ p.routes.map (·.pattern) := hpatterns ▸ List.mem_map_of_mem hroute
  obtain ⟨own, hown, heq⟩ := List.mem_map.mp hmem
  rw [← heq]
  exact p.apart_local l hown

end Gateway

/-! ## One set of filters -/

/-- What events make of the filters of a route with a pattern: they judge the requests for the
pattern, and are pruned. -/
def PathPattern.filtersAfter (p : PathPattern) (filters : List Filter) :
    List GatewayEvent → List Filter
  | [] => filters
  | .visit v _ :: rest =>
    p.filtersAfter
      (if p.accepts v.request.uri.path.toList then Filter.afterAll v.now v.request filters
        else filters) rest
  | .prune now :: rest => p.filtersAfter (Filter.pruneFirst now filters) rest

/-- **The run**: by induction on the events.  A route stays at its position, and its filters are
what the events have made of them. -/
theorem Gateway.Reached.getElem?_run {s : Settings} {g : Gateway} (h : Reached s g) {i : Nat}
    {route : Route} (hroute : g.routes[i]? = some route) (events : List GatewayEvent) :
    (g.run events).2.routes[i]? =
      some { route with filters := route.pattern.filtersAfter route.filters events } := by
  induction events generalizing g route with
  | nil => exact hroute
  | cons e rest ih =>
    cases e with
    | visit v net =>
      have hserved : (g.reply v net).2 =
          { g with routes := g.routes.map (Route.after v.now v.request) } :=
        routes_serve h.apart h.apart_local
      have hnext : (g.reply v net).2.routes[i]? = some (route.after v.now v.request) := by
        rw [hserved, List.getElem?_map, hroute]
        rfl
      exact ih (.served h net v.fresh v.request ⟨v.now, v.wall, [], [], ()⟩) hnext
    | prune now =>
      have hnext : (g.prune now).routes[i]? =
          some { route with filters := Filter.pruneFirst now route.filters } := by
        unfold prune
        rw [List.getElem?_map, hroute]
        rfl
      exact ih (.pruned h now) hnext

/-! ## Forms -/

/-- A form under which paths are registered. -/
inductive PathForm where
  | whole (path : String)
  /-- A path that goes on with something. -/
  | wild (path : String)
  deriving DecidableEq, Repr

/-- Whether a path has a form. -/
def PathForm.Matches : PathForm → List Char → Prop
  | whole own, path => path = own.toList
  | wild own, path => ∃ rest, rest ≠ [] ∧ path = own.toList ++ rest

namespace PathPattern

/-- The forms under which a path is registered with everything below it. -/
def forms (own : String) : List PathForm := [.whole own, .whole (own ++ "/"), .wild (own ++ "/")]

/-- **Forms**: the pattern is the union of the forms.  Where a slash follows the path, it depends on
whether something follows the slash. -/
theorem accepts_under_iff_exists_form {own : String} {path : List Char} :
    (under own).accepts path = true ↔ ∃ form ∈ forms own, form.Matches path := by
  rw [accepts_under_iff]
  simp only [forms, List.mem_cons, List.not_mem_nil, or_false, exists_eq_or_imp, exists_eq_left,
    PathForm.Matches, String.toList_append]
  constructor
  · rintro (hsame | ⟨rest, rfl⟩)
    · exact .inl hsame
    · cases rest with
      | nil => exact .inr (.inl (List.append_nil _))
      | cons c more => exact .inr (.inr ⟨c :: more, nofun, rfl⟩)
  · rintro (hsame | rfl | ⟨rest, -, rfl⟩)
    · exact .inl hsame
    · exact .inr (List.prefix_refl _)
    · exact .inr (List.prefix_append _ _)

end PathPattern

/-! ## Headline -/

/-- What a path goes on with, after the path that it is at or below, is a slash. -/
theorem PathPattern.head?_eq_slash {own rest path : List Char}
    (h : path = own ∨ own ++ ['/'] <+: path) (hpath : path = own ++ rest) :
    ∀ c ∈ rest.head?, c = '/' := by
  subst hpath
  rcases h with hsame | hbelow
  · rw [List.append_right_eq_self.mp hsame]
    exact fun c hc => (nomatch hc)
  · rw [List.prefix_append_right_inj] at hbelow
    obtain ⟨more, rfl⟩ := hbelow
    exact fun c hc => (Option.some.inj hc).symm

namespace Gateway

/-- The paths that have a route with everything below them, each with the number of segments that
the route strips. -/
def prefixes : List (String × Nat) := [("/api", 1), ("/gateway/rate", 2), ("/timing", 1)]

theorem length_segments_of_mem {own : String} {strip : Nat} (h : (own, strip) ∈ prefixes) :
    (Proxy.segments own.toList).length = strip := by
  have hall : ∀ x ∈ prefixes, (Proxy.segments x.1.toList).length = x.2 := by decide
  exact hall _ h

theorem Parts.exists_prefix {s : Settings} {now : Nat} (p : Parts s now) {own : String}
    {strip : Nat} (h : (own, strip) ∈ prefixes) :
    ∃ (i : Nat) (route : Route), p.routes[i]? = some route ∧ route.pattern = .under own ∧
      route.destination.strip = strip := by
  simp only [prefixes, List.mem_cons, Prod.mk.injEq, List.not_mem_nil, or_false] at h
  rcases h with ⟨rfl, rfl⟩ | ⟨rfl, rfl⟩ | ⟨rfl, rfl⟩
  · exact ⟨0, _, rfl, rfl, (Destination.create_cases p.api_eq).1⟩
  · exact ⟨1, _, rfl, rfl, (Destination.create_cases p.rate_eq).1⟩
  · exact ⟨2, _, rfl, rfl, (Destination.create_cases p.timing_eq).1⟩

theorem Reached.exists_prefix {s : Settings} {g : Gateway} (h : Reached s g) {own : String}
    {strip : Nat} (listed : (own, strip) ∈ prefixes) :
    ∃ (i : Nat) (route : Route), g.routes[i]? = some route ∧ route.pattern = .under own ∧
      route.destination.strip = strip := by
  obtain ⟨now, p, hp⟩ := h.asNew_eq
  obtain ⟨i, first, hfirst, hpattern, hstrip⟩ := p.exists_prefix listed
  have hroutes : g.routes.map Route.asNew = p.routes.map Route.asNew := congrArg (·.routes) hp
  have hi : (g.routes.map Route.asNew)[i]? = some first.asNew := by
    rw [hroutes, List.getElem?_map, hfirst]
    rfl
  rw [List.getElem?_map] at hi
  obtain ⟨route, hroute, heq⟩ := Option.map_eq_some_iff.mp hi
  have hsame : route.asNew.pattern = first.asNew.pattern := congrArg Route.pattern heq
  have hleads : route.asNew.destination = first.asNew.destination :=
    congrArg Route.destination heq
  exact ⟨i, route, hroute, hsame.trans hpattern, (congrArg Destination.strip hleads).trans hstrip⟩

/-- **Headline.**  Each of the three paths has one route.  A path comes to it exactly if it is that
path or goes on after it with a slash, which is to say that it has one of the three forms under
which the route is registered.  The destination sees what a destination that strips nothing would
see of the rest: all its segments and none of the route's own.  A request that comes to the route is
judged by the filters of this route, whatever its method; and what these hold after any events is
what all the requests for the path or below it have made of them. -/
theorem prefix_route {s : Settings} {g : Gateway} (reached : Reached s g) {own : String}
    {strip : Nat} (listed : (own, strip) ∈ prefixes) :
    ∃ (i : Nat) (route : Route), g.routes[i]? = some route ∧
      -- which paths come to the route
      (∀ path : String, g.routeAt? path = some i ↔
        path.toList = own.toList ∨ own.toList ++ ['/'] <+: path.toList) ∧
      (∀ path : String, g.routeAt? path = some i ↔
        ∃ form ∈ PathPattern.forms own, form.Matches path.toList) ∧
      -- what its destination sees of them
      (∀ (target : Uri) (rest : List Char), g.routeAt? target.path = some i →
        target.path.toList = own.toList ++ rest →
        Proxy.stripSegments strip target.path.toList = Proxy.stripSegments 0 rest ∧
        Proxy.segments (Proxy.stripSegments strip target.path.toList) = Proxy.segments rest ∧
        route.destination.urlFor target = { route.destination with strip := 0 }.urlFor
          { target with path := String.ofList rest }) ∧
      -- who judges their requests
      (∀ {σ : Type} (net : Network σ) (fresh : HeaderValue) (r : Request) (scene : Scene σ),
        g.routeAt? r.uri.path = some i →
        g.serve net fresh r scene =
          let (a, after, scene') := route.serve g.maxBody net fresh (r.named fresh) scene
          (g.signed (Filter.requestIdFor fresh r.headers) (.ofRoute r.method a),
            spanOf (r.named fresh), { g with routes := g.routes.set i after }, scene')) ∧
      ∀ events : List GatewayEvent, (g.run events).2.routes[i]? =
        some { route with
          filters := (PathPattern.under own).filtersAfter route.filters events } := by
  obtain ⟨i, route, hroute, hpattern, hstrip⟩ := reached.exists_prefix listed
  have hreach : ∀ path : String, g.routeAt? path = some i ↔
      path.toList = own.toList ∨ own.toList ++ ['/'] <+: path.toList := by
    intro path
    rw [routeAt?_eq_some_iff reached.apart reached.apart_local, ← PathPattern.accepts_under_iff,
      ← hpattern]
    refine ⟨fun ⟨other, hother, haccepts⟩ => ?_, fun haccepts => ⟨route, hroute, haccepts⟩⟩
    obtain rfl : route = other := Option.some.inj (hroute.symm.trans hother)
    exact haccepts
  have hforms : ∀ path : String, g.routeAt? path = some i ↔
      ∃ form ∈ PathPattern.forms own, form.Matches path.toList := fun path => by
    rw [hreach, ← PathPattern.accepts_under_iff, PathPattern.accepts_under_iff_exists_form]
  refine ⟨i, route, hroute, hreach, hforms, ?_, ?_, ?_⟩
  · intro target rest hi hpath
    have hrest := PathPattern.head?_eq_slash ((hreach target.path).mp hi) hpath
    have hstripped : Proxy.stripSegments strip target.path.toList = Proxy.stripSegments 0 rest := by
      rw [hpath, ← length_segments_of_mem listed]
      exact Proxy.stripSegments_append hrest
    refine ⟨hstripped, ?_, ?_⟩
    · rw [hstripped, Proxy.segments_stripSegments, List.drop_zero]
    · unfold Destination.urlFor
      rw [hstrip, hstripped, String.toList_ofList]
      rfl
  · intro σ net fresh r scene hi
    exact serve_of_routeAt? net fresh scene hi hroute
  · intro events
    rw [reached.getElem?_run hroute, hpattern]

/-- The throttled route of the standard gateway: its bare path, a slash in a row, its own name once
more below it, and a path that only begins alike; and three requests, by three methods, that one
bucket of five tokens pays for. -/
theorem prefix_route_of_api :
    let g := Parts.standard.gateway
    let visit (method path : String) : GatewayEvent :=
      .visit ⟨0, 0, .ofString "7", ⟨method, ⟨none, none, path, none⟩, [], [], none⟩⟩
        fun _ s => (.failed .connect, s)
    let events := [visit "GET" "/api", visit "POST" "/api/", visit "HEAD" "/api/x"]
    Reached .standard g ∧ ("/api", 1) ∈ prefixes ∧
    ∃ (i : Nat) (route : Route), g.routes[i]? = some route ∧
      g.routeAt? "/api" = some i ∧ g.routeAt? "/api//api/" = some i ∧ g.routeAt? "/apis" ≠ some i ∧
      Proxy.stripSegments 1 "/api//api/".toList = Proxy.stripSegments 0 "//api/".toList ∧
      Proxy.segments (Proxy.stripSegments 1 "/api//api/".toList) = ["api".toList] ∧
      (g.run events).2.routes[i]? = some { route with
        filters := (PathPattern.under "/api").filtersAfter route.filters events } ∧
      (PathPattern.under "/api").filtersAfter [.throttle "api" ⟨5, 5, .every 1 10 0⟩] events =
        [.throttle "api" ⟨5, 2, .every 1 10 0⟩] := by
  intro g visit events
  have hreached : Reached .standard g := .built build_standard
  have hlisted : ("/api", 1) ∈ prefixes := by decide
  obtain ⟨i, route, hroute, hreach, -, hstrip, -, hrun⟩ := prefix_route hreached hlisted
  have hbelow : g.routeAt? "/api//api/" = some i := (hreach _).mpr (.inr (by decide))
  obtain ⟨hstripped, hsegments, -⟩ :=
    hstrip ⟨none, none, "/api//api/", none⟩ "//api/".toList hbelow (by decide)
  have hother : g.routeAt? "/apis" ≠ some i := fun h => absurd ((hreach _).mp h) (by decide)
  exact ⟨hreached, hlisted, i, route, hroute, (hreach _).mpr (.inl rfl), hbelow, hother, hstripped,
    hsegments.trans (by decide), hrun _, by rfl⟩

end Gateway

end Turnstile

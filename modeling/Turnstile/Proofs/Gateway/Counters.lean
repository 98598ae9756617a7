import Mathlib.Data.List.Basic
import Turnstile.Proofs.Filter.Run
import Turnstile.Proofs.Gateway.Build
/-!
  What a gateway counts requests by, and which requests each of these filters gets.

  1. **Specification** — a gateway has three filters that count (`Counter`), and requests belong to
     one of them by their path and, on the demo route, by their host (`Counter.owns`).

  2. **Patterns** (`PathPattern.accepts_under_iff`, `Apart.not_accepts`) — two patterns of which
     neither begins with the other have no path in common, so at most one route of the gateway
     accepts a path.

  3. **State** (`Counters`) — of a gateway that was set up, only the three filters ever change; it
     is what was set up, with other counters in place (`Reached.exists_counters`).

  4. **One request** (`gateway_serve`) — a request is judged by the counter that it belongs to, and
     the others stay as they are.
-/

namespace Turnstile

/-! ## Specification -/

/-- The filters of a gateway that count requests. -/
inductive Counter where
  /-- The bucket of the throttled route. -/
  | api
  /-- The keyed limiter. -/
  | rate
  /-- The bucket of the demo route. -/
  | get
  deriving DecidableEq, Repr

/-- Whether a request is for a path or for one below it. -/
def Request.isUnder (own : String) (r : Request) : Bool :=
  r.uri.path.toList = own.toList ∨ own.toList ++ ['/'] <+: r.uri.path.toList

/-- Whether a request is for a host of the throttled demo. -/
def Request.isForDemo (r : Request) : Bool :=
  r.host?.any (HostGlob.parse "**.throttle.org").accepts

namespace Counter

/-- Whether a counter counts a request. -/
def owns (r : Request) : Counter → Bool
  | api => r.isUnder "/api"
  | rate => r.isUnder "/gateway/rate"
  | get => r.uri.path = "/get" && r.isForDemo

/-- The pattern of the route with a counter. -/
def pattern : Counter → PathPattern
  | api => .under "/api"
  | rate => .under "/gateway/rate"
  | get => .exactly "/get"

/-- The counter that a filter is. -/
def of? : Filter → Option Counter
  | .throttle route _ =>
    if route = "api" then some api else if route = "throttle_org" then some get else none
  | .rateGate _ => some rate
  | _ => none

end Counter

/-- The filter of a gateway that is a counter. -/
def Gateway.counting? (c : Counter) (g : Gateway) : Option Filter :=
  (g.routes.flatMap (·.filters)).find? fun f => Counter.of? f = some c

/-! ## Patterns -/

namespace PathPattern

/-- The path in a pattern. -/
def text : PathPattern → String
  | exactly own => own
  | under own => own

theorem accepts_under_iff {own : String} {path : List Char} :
    (under own).accepts path = true ↔ path = own.toList ∨ own.toList ++ ['/'] <+: path := by
  unfold accepts
  cases hcut : own.toList.isPrefixOf? path with
  | none =>
    have hno : ∀ rest, own.toList ++ rest ≠ path := by
      intro rest happend
      rw [List.isPrefixOf?_eq_some_iff_append_eq.mpr happend] at hcut
      cases hcut
    constructor
    · intro h
      simp [hcut] at h
    · rintro (heq | ⟨rest, hbelow⟩)
      · exact absurd (by rw [List.append_nil, heq]) (hno [])
      · exact absurd (by rw [← hbelow, List.append_assoc]) (hno (['/'] ++ rest))
  | some rest =>
    have hpath := List.isPrefixOf?_eq_some_iff_append_eq.mp hcut
    dsimp only
    rw [hcut, ← hpath]
    cases rest with
    | nil => simp
    | cons c rest => simp [eq_comm]

theorem prefix_of_accepts {p : PathPattern} {path : List Char} (h : p.accepts path = true) :
    p.text.toList <+: path := by
  cases p with
  | exactly own =>
    have heq : path = own.toList := of_decide_eq_true h
    rw [heq]
    exact List.prefix_refl _
  | under own =>
    rcases accepts_under_iff.mp h with rfl | hbelow
    · exact List.prefix_refl _
    · exact (List.prefix_append _ _).trans hbelow

/-- **Apart**: neither of two patterns begins with the other. -/
def Apart (a b : PathPattern) : Prop :=
  ¬ a.text.toList <+: b.text.toList ∧ ¬ b.text.toList <+: a.text.toList

instance (a b : PathPattern) : Decidable (a.Apart b) :=
  inferInstanceAs (Decidable (_ ∧ _))

/-- Patterns that are apart have no path in common. -/
theorem Apart.not_accepts {a b : PathPattern} (apart : a.Apart b) {path : List Char}
    (ha : a.accepts path = true) : b.accepts path = false := by
  rw [← Bool.not_eq_true]
  intro hb
  rcases List.prefix_or_prefix_of_prefix (prefix_of_accepts ha) (prefix_of_accepts hb) with
    hab | hba
  · exact apart.1 hab
  · exact apart.2 hba

end PathPattern

/-- A counter counts what comes to its route, but on the demo route only what is for its host. -/
theorem Counter.owns_eq (c : Counter) (r : Request) :
    c.owns r = (c.pattern.accepts r.uri.path.toList && (c != get || r.isForDemo)) := by
  have hunder (own : String) :
      r.isUnder own = (PathPattern.under own).accepts r.uri.path.toList := by
    unfold Request.isUnder
    rw [Bool.eq_iff_iff, PathPattern.accepts_under_iff, decide_eq_true_iff]
  cases c with
  | api =>
    show r.isUnder "/api" = _
    rw [hunder]
    exact (Bool.and_true _).symm
  | rate =>
    show r.isUnder "/gateway/rate" = _
    rw [hunder]
    exact (Bool.and_true _).symm
  | get =>
    have hpath : (r.uri.path = "/get") = (r.uri.path.toList = "/get".toList) :=
      propext String.toList_inj.symm
    show (decide (r.uri.path = "/get") && r.isForDemo) = _
    simp only [hpath]
    rfl

/-! ## State -/

/-- What a gateway keeps from one request to the next. -/
structure Counters where
  api : Bucket
  gate : RateGate
  get : Bucket
  deriving DecidableEq, Repr

namespace Counters

/-- A counter as a filter. -/
def filter (k : Counters) : Counter → Filter
  | .api => .throttle "api" k.api
  | .rate => .rateGate k.gate
  | .get => .throttle "throttle_org" k.get

/-- Puts a counter in the place of the one that a filter is. -/
def place (k : Counters) (f : Filter) : Filter :=
  match Counter.of? f with
  | some c => k.filter c
  | none => f

/-- The counters after a request. -/
def serve (now : Nat) (r : Request) (k : Counters) : Counters where
  api := if Counter.api.owns r then (k.api.take now).2 else k.api
  gate := if Counter.rate.owns r then (k.gate.check now r).2 else k.gate
  get := if Counter.get.owns r then (k.get.take now).2 else k.get

/-- The counters without the keys that behave like new ones. -/
def prune (now : Nat) (k : Counters) : Counters := { k with gate := k.gate.prune now }

/-- **A request** is judged by the counter that it belongs to. -/
theorem filter_serve (now : Nat) (r : Request) (k : Counters) (c : Counter) :
    (k.serve now r).filter c = if c.owns r then (k.filter c).after now r else k.filter c := by
  cases c with
  | api =>
    show Filter.throttle "api" (if _ then _ else _) = _
    rw [apply_ite (Filter.throttle "api"), ← Filter.after_throttle]
    rfl
  | rate =>
    show Filter.rateGate (if _ then _ else _) = _
    rw [apply_ite Filter.rateGate, ← Filter.after_rateGate]
    rfl
  | get =>
    show Filter.throttle "throttle_org" (if _ then _ else _) = _
    rw [apply_ite (Filter.throttle "throttle_org"), ← Filter.after_throttle]
    rfl

/-- The same, with the path and the host apart, as a route sees them. -/
theorem filter_serve_of_pattern (now : Nat) (r : Request) (k : Counters) (c : Counter) :
    (k.serve now r).filter c =
      if c.pattern.accepts r.uri.path.toList && (c != .get || r.isForDemo) then
        (k.filter c).after now r
      else k.filter c := by
  rw [filter_serve, c.owns_eq]

/-- A counter that is the only filter of its route judges every request for the route. -/
theorem afterAll_of_only (now : Nat) (r : Request) (k : Counters) {c : Counter}
    (only : (c != .get) = true) :
    (if c.pattern.accepts r.uri.path.toList then Filter.afterAll now r [k.filter c]
      else [k.filter c]) = [(k.serve now r).filter c] := by
  rw [filter_serve_of_pattern, only, Bool.true_or, Bool.and_true, Filter.afterAll_singleton]
  split <;> rfl

theorem filter_prune_congr {now : Nat} {k k' : Counters} {c : Counter}
    (h : k.filter c = k'.filter c) : (k.prune now).filter c = (k'.prune now).filter c := by
  cases c with
  | api => exact h
  | rate =>
    injection h with hgate
    show Filter.rateGate (k.gate.prune now) = Filter.rateGate (k'.gate.prune now)
    rw [hgate]
  | get => exact h

end Counters

/-- The route with other counters in place. -/
def Route.withCounters (k : Counters) (route : Route) : Route :=
  { route with filters := route.filters.map k.place }

/-- The gateway with other counters in place. -/
def Gateway.withCounters (k : Counters) (g : Gateway) : Gateway :=
  { g with routes := g.routes.map (·.withCounters k) }

namespace Gateway.Parts

variable {s : Settings} {made : Nat} (p : Parts s made)

/-- The counters that were set up. -/
def counters : Counters := ⟨p.apiBucket, p.gate, p.getBucket⟩

theorem withCounters_counters : p.gateway.withCounters p.counters = p.gateway := rfl

theorem counting?_withCounters (k : Counters) (c : Counter) :
    (p.gateway.withCounters k).counting? c = some (k.filter c) := by
  cases c <;> rfl

theorem prune_withCounters (k : Counters) (now : Nat) :
    (p.gateway.withCounters k).prune now = p.gateway.withCounters (k.prune now) := rfl

theorem patterns_eq : p.routes.map (·.pattern) =
    [.under "/api", .under "/gateway/rate", .under "/timing", .exactly "/anything/png",
      .exactly "/image/webp", .exactly "/get"] := rfl

/-- No path belongs to two routes. -/
theorem apart : p.routes.Pairwise fun a b => a.pattern.Apart b.pattern := by
  have hpatterns : (p.routes.map (·.pattern)).Pairwise PathPattern.Apart := by
    rw [p.patterns_eq]
    decide
  exact List.pairwise_map.mp hpatterns

/-- No path belongs to a route that leads to a destination and to one that the gateway serves
itself. -/
theorem apart_local (l : LocalRoute) {route : Route} (h : route ∈ p.routes) :
    (PathPattern.exactly l.path).Apart route.pattern := by
  have hpatterns : ∀ q ∈ p.routes.map (·.pattern), (PathPattern.exactly l.path).Apart q := by
    rw [p.patterns_eq]
    cases l <;> decide
  exact hpatterns _ (List.mem_map_of_mem h)

end Gateway.Parts

/-! ## One request -/

/-- The route after it has judged a request, if it gets it. -/
def Route.after (now : Nat) (r : Request) (route : Route) : Route :=
  { route with
    filters :=
      if route.pattern.accepts r.uri.path.toList then Filter.afterAll now r route.filters
      else route.filters }

theorem Route.map_after_of_not_accepts {now : Nat} {r : Request} {routes : List Route}
    (h : ∀ route ∈ routes, route.pattern.accepts r.uri.path.toList = false) :
    routes.map (after now r) = routes := by
  have hsame : ∀ route ∈ routes, route.after now r = route := by
    intro route hroute
    unfold after
    rw [h route hroute, if_neg Bool.false_ne_true]
  rw [List.map_congr_left hsame, List.map_id']

section

variable {σ : Type} (net : Network σ) (fresh : HeaderValue) (r : Request) (s : Scene σ)

theorem Route.after_named (now : Nat) (route : Route) :
    route.after now (r.named fresh) = route.after now r := by
  have hfilters : Filter.afterAll now (r.named fresh) route.filters =
      Filter.afterAll now r route.filters :=
    Filter.afterAll_passed now fresh [.requestId] r route.filters
  unfold after
  rw [hfilters]
  rfl

/-- If no path belongs to two routes, every route judges the requests for its paths. -/
theorem Route.routes_serveFirst (limit : Nat) {routes : List Route}
    (apart : routes.Pairwise fun a b => a.pattern.Apart b.pattern) :
    ((serveFirst limit net fresh r s routes).map (·.2.1)).getD routes =
      routes.map (after s.now r) := by
  induction routes with
  | nil => rfl
  | cons route rest ih =>
    rw [List.pairwise_cons] at apart
    rw [serveFirst, List.map_cons]
    by_cases haccepts : route.pattern.accepts r.uri.path.toList = true
    · have hroute : (route.serve limit net fresh r s).2.1 = route.after s.now r := by
        unfold after
        rw [if_pos haccepts, ← Filter.filters_serveThrough fresh (route.stage limit net)]
        rfl
      -- no other route accepts the path
      have hrest : rest.map (after s.now r) = rest :=
        map_after_of_not_accepts fun other hother => (apart.1 other hother).not_accepts haccepts
      rw [if_pos haccepts, hrest, ← hroute]
      rfl
    · have hroute : route.after s.now r = route := by
        unfold after
        rw [if_neg haccepts]
      rw [if_neg haccepts, hroute, ← ih apart.2]
      cases serveFirst limit net fresh r s rest <;> rfl

theorem LocalRoute.path_of_at? {path : String} {l : LocalRoute} (h : at? path = some l) :
    path = l.path := by
  have hpath := List.find?_some h
  exact (beq_iff_eq.mp hpath).symm

namespace Gateway

variable {net fresh r s}

/-- **The routes after a request**, if no path belongs to two of them, nor to one of them and a
route that the gateway serves itself. -/
theorem routes_serve {g : Gateway}
    (apart : g.routes.Pairwise fun a b => a.pattern.Apart b.pattern)
    (apart_local : ∀ l : LocalRoute, ∀ route ∈ g.routes,
      (PathPattern.exactly l.path).Apart route.pattern) :
    (g.serve net fresh r s).2.2.1 = { g with routes := g.routes.map (Route.after s.now r) } := by
  rw [serve_eq]
  unfold serveByRoute
  dsimp only
  split
  · rename_i l hl
    have hpath : r.uri.path = l.path := LocalRoute.path_of_at? hl
    have hsame : g.routes.map (Route.after s.now r) = g.routes := by
      refine Route.map_after_of_not_accepts fun route hroute => ?_
      refine (apart_local l route hroute).not_accepts ?_
      rw [hpath]
      exact decide_eq_true rfl
    rw [hsame]
    split <;> rfl
  · have hroutes := Route.routes_serveFirst net fresh (r.named fresh) s g.maxBody apart
    have hnamed : Route.after s.now (r.named fresh) = Route.after s.now r :=
      funext (Route.after_named fresh r s.now)
    rw [hnamed] at hroutes
    rw [← hroutes]
    split
    · rename_i hfirst
      rw [hfirst]
      rfl
    · rename_i hfirst
      rw [hfirst]
      rfl

end Gateway

end

/-! ## Gateways that were set up -/

namespace Gateway.Parts

variable {s : Settings} {made : Nat} (p : Parts s made) (k : Counters)

/-- A route judges a request as its counter does, if it has one. -/
theorem after_withCounters (now : Nat) (r : Request) {route : Route} (h : route ∈ p.routes) :
    (route.withCounters k).after now r = route.withCounters (k.serve now r) := by
  simp only [routes, List.mem_cons, List.not_mem_nil, or_false] at h
  rcases h with rfl | rfl | rfl | rfl | rfl | rfl
  · refine congrArg (Route.mk (.under "/api") · _ _ _) ?_
    exact k.afterAll_of_only (c := .api) now r rfl
  · refine congrArg (Route.mk (.under "/gateway/rate") · _ _ _) ?_
    exact k.afterAll_of_only (c := .rate) now r rfl
  · refine congrArg (Route.mk (.under "/timing") · _ _ _) ?_
    exact ite_self _
  · refine congrArg (Route.mk (.exactly "/anything/png") · _ _ _) ?_
    show (if _ then Filter.afterAll now r [.host (HostGlob.parse "**.abc.org")] else _) = _
    rw [Filter.afterAll_singleton, Filter.after_host]
    exact ite_self _
  · refine congrArg (Route.mk (.exactly "/image/webp") · _ _ _) ?_
    exact ite_self _
  · -- the host is judged first, and the bucket only behind it
    refine congrArg (Route.mk (.exactly "/get") · _ _ _) ?_
    show (if (PathPattern.exactly "/get").accepts r.uri.path.toList then
        (Filter.host (HostGlob.parse "**.throttle.org")).after now r ::
          if r.isForDemo then Filter.afterAll now r [k.filter .get] else [k.filter .get]
      else [.host (HostGlob.parse "**.throttle.org"), k.filter .get]) =
      [.host (HostGlob.parse "**.throttle.org"), (k.serve now r).filter .get]
    rw [k.filter_serve_of_pattern, Filter.afterAll_singleton, Filter.after_host]
    show _ = [_, if (PathPattern.exactly "/get").accepts r.uri.path.toList && r.isForDemo then _
      else _]
    cases (PathPattern.exactly "/get").accepts r.uri.path.toList <;> cases r.isForDemo <;> rfl

theorem apart_withCounters :
    (p.gateway.withCounters k).routes.Pairwise fun a b => a.pattern.Apart b.pattern :=
  List.pairwise_map.mpr p.apart

/-- **One request**: the counter that it belongs to judges it, and nothing else changes. -/
theorem serve_withCounters {σ : Type} (net : Network σ) (fresh : HeaderValue) (r : Request)
    (scene : Scene σ) :
    ((p.gateway.withCounters k).serve net fresh r scene).2.2.1 =
      p.gateway.withCounters (k.serve scene.now r) := by
  have hlocal : ∀ l : LocalRoute, ∀ route ∈ (p.gateway.withCounters k).routes,
      (PathPattern.exactly l.path).Apart route.pattern := by
    intro l route hroute
    obtain ⟨own, hown, rfl⟩ := List.mem_map.mp hroute
    have happart : (PathPattern.exactly l.path).Apart own.pattern := p.apart_local l hown
    exact happart
  have hroutes : (p.gateway.withCounters k).routes.map (Route.after scene.now r) =
      (p.gateway.withCounters (k.serve scene.now r)).routes := by
    show (p.routes.map _).map _ = p.routes.map _
    rw [List.map_map]
    exact List.map_congr_left fun route hroute => p.after_withCounters k scene.now r hroute
  rw [routes_serve (p.apart_withCounters k) hlocal, hroutes]
  rfl

end Gateway.Parts

/-- **Whatever happens**: a gateway that has been reached is one that was set up, with other counters
in place. -/
theorem Gateway.Reached.exists_counters {s : Settings} {g : Gateway} (h : Reached s g) :
    ∃ (made : Nat) (p : Parts s made) (k : Counters), g = p.gateway.withCounters k := by
  induction h with
  | built h =>
    obtain ⟨p, rfl⟩ := build_yields h
    exact ⟨_, p, p.counters, p.withCounters_counters.symm⟩
  | served _ net fresh r scene ih =>
    obtain ⟨made, p, k, rfl⟩ := ih
    exact ⟨made, p, _, p.serve_withCounters k net fresh r scene⟩
  | pruned _ now ih =>
    obtain ⟨made, p, k, rfl⟩ := ih
    exact ⟨made, p, _, p.prune_withCounters k now⟩

/-- **One request**: a gateway keeps its three counters.  A request changes the one that it belongs
to, as this judges it, and no other. -/
theorem Gateway.Reached.counting?_serve {s : Settings} {g : Gateway} (h : Reached s g)
    {σ : Type} (net : Network σ) (fresh : HeaderValue) (r : Request) (scene : Scene σ)
    (c : Counter) :
    ∃ f, g.counting? c = some f ∧
      (g.serve net fresh r scene).2.2.1.counting? c =
        some (if c.owns r then f.after scene.now r else f) := by
  obtain ⟨made, p, k, rfl⟩ := h.exists_counters
  refine ⟨k.filter c, p.counting?_withCounters k c, ?_⟩
  rw [p.serve_withCounters, p.counting?_withCounters, k.filter_serve]

end Turnstile

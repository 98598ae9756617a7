import Turnstile.Gateway.Build
import Turnstile.Proofs.Gateway.Record
/-!
  Which gateways there are.

  1. **Setting up** (`Build.Yields`) — whether something is set up, and what, is read off the steps
     of setting it up, one after the other (`Build.Yields.bind`).  What is logged on the way has no
     part in it.

  2. **Parts** (`Gateway.Parts`, `build_yields`) — a gateway that is set up is put together from
     parts, each of which could be set up from the settings.

  3. **Later on** (`Gateway.Reached`, `Reached.asNew_eq`) — a gateway serves requests and is pruned.
     Whatever happens to it, it is the one that was set up, but for traces of requests in its
     filters.
-/

namespace Turnstile

/-! ## Setting up -/

namespace Build

/-- A problem in the step ends it; otherwise the rest goes on with the journal of the step. -/
theorem run_bind {α β : Type} (x : Build α) (f : α → Build β) (j : Journal) :
    (x >>= f).run j =
      match x.run j with
      | (.ok a, after) => (f a).run after
      | (.error e, after) => (.error e, after) := by
  show (ExceptT.bindCont f (x.run j).1 : StateM Journal _) (x.run j).2 = _
  cases x.run j with
  | mk result after => cases result <;> rfl

/-- Some run of `b` comes to `a`. -/
def Yields {α : Type} (b : Build α) (a : α) : Prop := ∃ j after : Journal, b.run j = (.ok a, after)

/-- **A step, and the rest**: what comes of both comes of the rest, from what comes of the step. -/
theorem Yields.bind {α β : Type} {x : Build α} {f : α → Build β} {b : β} (h : Yields (x >>= f) b) :
    ∃ a, Yields x a ∧ Yields (f a) b := by
  obtain ⟨j, after, h⟩ := h
  rw [run_bind] at h
  cases hx : x.run j with
  | mk result j' =>
    rw [hx] at h
    cases result with
    | ok a => exact ⟨a, ⟨j, j', hx⟩, ⟨j', after, h⟩⟩
    | error e => cases h

theorem Yields.pure {α : Type} {a b : α} (h : Yields (pure a) b) : b = a := by
  obtain ⟨j, after, h⟩ := h
  cases h
  rfl

theorem not_yields_throw {α : Type} {e : BuildProblem} {a : α} : ¬ Yields (throw e) a := by
  rintro ⟨j, after, h⟩
  cases h

theorem Yields.ofExcept {ε α : Type} {problem : ε → BuildProblem} {x : Except ε α} {a : α}
    (h : Yields (ofExcept problem x) a) : x = .ok a := by
  cases x with
  | ok b => exact congrArg Except.ok h.pure.symm
  | error e => exact absurd h not_yields_throw

theorem Yields.throttle {route path : String} {s : ThrottleSettings} {now : Nat} {f : Filter}
    (h : Yields (throttle route path s now) f) :
    ∃ bucket, Bucket.create s now = .ok bucket ∧ f = .throttle route bucket := by
  obtain ⟨bucket, hbucket, h⟩ := h.bind
  obtain ⟨_, _, h⟩ := h.bind
  exact ⟨bucket, hbucket.ofExcept, h.pure⟩

theorem Yields.trustedProxies {texts : List String} {p : TrustedProxies}
    (h : Yields (trustedProxies texts) p) : p = .ofTexts texts := by
  obtain ⟨_, _, h⟩ := h.bind
  dsimp only at h
  split at h
  · obtain ⟨_, _, h⟩ := h.bind
    exact h.pure
  · exact h.pure

theorem Yields.rateGate {s : Settings} {proxies : TrustedProxies} {now : Nat} {f : Filter}
    (h : Yields (rateGate s proxies now) f) :
    ∃ gate, RateGate.create s.rate s.burst s.keyRule proxies now = .ok gate ∧
      f = .rateGate gate := by
  obtain ⟨gate, hgate, h⟩ := h.bind
  obtain ⟨_, _, h⟩ := h.bind
  exact ⟨gate, hgate.ofExcept, h.pure⟩

end Build

/-! ## Parts -/

namespace Gateway

/-- What a gateway with the given settings is put together from at `now`. -/
structure Parts (s : Settings) (now : Nat) where
  stamp : HeaderValue
  apiBucket : Bucket
  gate : RateGate
  getBucket : Bucket
  api : Destination
  rate : Destination
  timing : Destination
  png : Destination
  webp : Destination
  get : Destination
  stamp_eq : HeaderValue.ofString? s.gatewayName = some stamp
  apiBucket_eq : Bucket.create s.throttle now = .ok apiBucket
  gate_eq : RateGate.create s.rate s.burst s.keyRule (.ofTexts s.trustedProxies) now = .ok gate
  getBucket_eq : Bucket.create demoThrottle now = .ok getBucket
  api_eq : Destination.create "api" s.mainUrl 1 = .ok api
  rate_eq : Destination.create "rate" s.mainUrl 2 = .ok rate
  timing_eq : Destination.create "timing" s.timingUrl 1 = .ok timing
  png_eq : Destination.create "anything_png" s.demoUrl 0 = .ok png
  webp_eq : Destination.create "image_webp" s.demoUrl 0 = .ok webp
  get_eq : Destination.create "throttle_get" s.demoUrl 0 = .ok get

namespace Parts

variable {s : Settings} {now : Nat}

/-- The routes to destinations. -/
def routes (p : Parts s now) : List Route :=
  [⟨.under "/api", [.throttle "api" p.apiBucket], some (proxyByName, p.stamp), none, p.api⟩,
   ⟨.under "/gateway/rate", [.rateGate p.gate], none, none, p.rate⟩,
   ⟨.under "/timing", [.timing], none, none, p.timing⟩,
   ⟨.exactly "/anything/png", [.host (HostGlob.parse "**.abc.org")], none,
    some ("x-testheader", .ofString "foobar"), p.png.withLead demoLead⟩,
   ⟨.exactly "/image/webp", [], none, some ("x-anotherheader", .ofString "baz"),
    p.webp.withLead demoLead⟩,
   ⟨.exactly "/get",
    [.host (HostGlob.parse "**.throttle.org"), .throttle "throttle_org" p.getBucket], none, none,
    p.get.withLead demoLead⟩]

/-- The name of the gateway, as it stands in fields. -/
theorem stamp_value (p : Parts s now) : p.stamp = .ofString s.gatewayName := by
  have hname := p.stamp_eq
  unfold HeaderValue.ofString? at hname
  split at hname
  · exact (Option.some.inj hname).symm
  · cases hname

/-- No filter of a route names requests; only the gateway does. -/
theorem requestId_not_mem (p : Parts s now) {route : Route} (h : route ∈ p.routes) :
    Filter.requestId ∉ route.filters := by
  simp only [routes, List.mem_cons, List.not_mem_nil, or_false] at h
  rcases h with rfl | rfl | rfl | rfl | rfl | rfl <;> simp

/-- A route stamps requests with the name of the gateway, or not at all. -/
theorem requestStamp_cases (p : Parts s now) {route : Route} (h : route ∈ p.routes) :
    route.requestStamp = none ∨ route.requestStamp = some (proxyByName, p.stamp) := by
  simp only [routes, List.mem_cons, List.not_mem_nil, or_false] at h
  rcases h with rfl | rfl | rfl | rfl | rfl | rfl
  · exact .inr rfl
  all_goals exact .inl rfl

/-- The throttled route does. -/
theorem requestStamp_of_api (p : Parts s now) {path : List Char} {route : Route}
    (hpath : (PathPattern.under "/api").accepts path = true)
    (h : Route.first? path p.routes = some route) :
    route.requestStamp = some (proxyByName, p.stamp) := by
  unfold routes at h
  rw [Route.first?_cons, if_pos hpath] at h
  cases h
  rfl

/-- The gateway. -/
def gateway (p : Parts s now) : Gateway :=
  ⟨s.gatewayName, p.stamp, s.maxBody.toNat, now, p.routes⟩

end Parts

/-- **Built from parts**: a gateway that is set up is put together from parts. -/
theorem build_yields {s : Settings} {now : Nat} {g : Gateway} (h : (build s now).Yields g) :
    ∃ p : Parts s now, g = p.gateway := by
  unfold build at h
  cases hname : HeaderValue.ofString? s.gatewayName with
  | none =>
    rw [hname] at h
    obtain ⟨_, hfailed, _⟩ := h.bind
    exact absurd hfailed Build.not_yields_throw
  | some stamp =>
    rw [hname] at h
    obtain ⟨_, hstamp, hrest⟩ := h.bind
    rw [hstamp.pure] at hrest
    -- the steps in their order; those that only log or start the timer come to nothing
    obtain ⟨apiThrottle, hapiThrottle, h⟩ := hrest.bind
    obtain ⟨_, _, h⟩ := h.bind
    obtain ⟨api, hapi, h⟩ := h.bind
    obtain ⟨proxies, hproxies, h⟩ := h.bind
    obtain ⟨rateFilter, hrateFilter, h⟩ := h.bind
    obtain ⟨_, _, h⟩ := h.bind
    obtain ⟨_, _, h⟩ := h.bind
    obtain ⟨rate, hrate, h⟩ := h.bind
    obtain ⟨timing, htiming, h⟩ := h.bind
    obtain ⟨png, hpng, h⟩ := h.bind
    obtain ⟨webp, hwebp, h⟩ := h.bind
    obtain ⟨getThrottle, hgetThrottle, h⟩ := h.bind
    obtain ⟨get, hget, h⟩ := h.bind
    obtain ⟨apiBucket, hapiBucket, rfl⟩ := hapiThrottle.throttle
    obtain ⟨getBucket, hgetBucket, rfl⟩ := hgetThrottle.throttle
    obtain rfl := hproxies.trustedProxies
    obtain ⟨gate, hgate, rfl⟩ := hrateFilter.rateGate
    exact ⟨⟨stamp, apiBucket, gate, getBucket, api, rate, timing, png, webp, get, hname, hapiBucket,
      hgate, hgetBucket, hapi.ofExcept, hrate.ofExcept, htiming.ofExcept, hpng.ofExcept,
      hwebp.ofExcept, hget.ofExcept⟩, h.pure⟩

/-- The URL of the root of a host. -/
def Parts.rootOf (host : String) (port : Option Nat) : Url :=
  ⟨"http".toList, [], [], some host.toList, false, port, .segments [[]], none, none⟩

/-- The parts of a gateway with the standard settings. -/
def Parts.standard : Parts .standard 0 where
  stamp := .ofString "sample-gateway"
  apiBucket := ⟨5, 5, .every 1 10000000000 0⟩
  gate := ⟨10, .smart, ⟨[]⟩, .create (.perSecond 10 20) 0⟩
  getBucket := ⟨1, 1, .every 1 10000000000 0⟩
  api := ⟨"api", rootOf "localhost" (some 8081), 1, []⟩
  rate := ⟨"rate", rootOf "localhost" (some 8081), 2, []⟩
  timing := ⟨"timing", rootOf "example.com" none, 1, []⟩
  png := ⟨"anything_png", rootOf "httpbin.org" none, 0, []⟩
  webp := ⟨"image_webp", rootOf "httpbin.org" none, 0, []⟩
  get := ⟨"throttle_get", rootOf "httpbin.org" none, 0, []⟩
  stamp_eq := by decide +kernel
  apiBucket_eq := by rfl
  gate_eq := by rfl
  getBucket_eq := by rfl
  api_eq := by rfl
  rate_eq := by rfl
  timing_eq := by rfl
  png_eq := by rfl
  webp_eq := by rfl
  get_eq := by rfl

/-- The standard settings can be set up. -/
theorem build_standard : (build .standard 0).Yields Parts.standard.gateway :=
  ⟨⟨[], []⟩, _, by rfl⟩

/-! ## Later on -/

/-- **Reached**: a gateway that was set up with the given settings, and has served requests and been
pruned since. -/
inductive Reached (s : Settings) : Gateway → Prop
  | built {now : Nat} {g : Gateway} (h : (build s now).Yields g) : Reached s g
  | served {σ : Type} {g : Gateway} (h : Reached s g) (net : Network σ) (fresh : HeaderValue)
      (r : Request) (scene : Scene σ) : Reached s (g.serve net fresh r scene).2.2.1
  | pruned {g : Gateway} (h : Reached s g) (now : Nat) : Reached s (g.prune now)

end Gateway

/-- The route without the traces of requests. -/
def Route.asNew (route : Route) : Route := { route with filters := route.filters.map Filter.asNew }

/-- The gateway without the traces of requests. -/
def Gateway.asNew (g : Gateway) : Gateway := { g with routes := g.routes.map Route.asNew }

section

variable {σ : Type} (net : Network σ) (fresh : HeaderValue) (r : Request) (s : Scene σ)

theorem Route.asNew_serve (limit : Nat) (route : Route) :
    (route.serve limit net fresh r s).2.1.asNew = route.asNew := by
  show { route with
    filters := (Filter.serveThrough fresh _ route.filters r s).2.1.map Filter.asNew } = route.asNew
  rw [Filter.asNew_serveThrough]
  rfl

theorem Route.asNew_serveFirst {limit : Nat} {routes after : List Route} {a : Response}
    {s' : Scene σ} (h : serveFirst limit net fresh r s routes = some (a, after, s')) :
    after.map Route.asNew = routes.map Route.asNew := by
  obtain ⟨i, route, -, hroute, -, rfl, -⟩ := exists_of_serveFirst h
  obtain ⟨hi, rfl⟩ := List.getElem?_eq_some_iff.mp hroute
  rw [List.map_set, asNew_serve, ← List.getElem_map Route.asNew, List.set_getElem_self]
  rwa [List.length_map]

theorem Gateway.asNew_serve (g : Gateway) : (g.serve net fresh r s).2.2.1.asNew = g.asNew := by
  unfold serve serveByRoute
  dsimp only
  split
  · split <;> rfl
  · split
    · rename_i hfirst
      unfold asNew
      rw [Route.asNew_serveFirst net fresh _ s hfirst]
    · rfl

end

theorem Gateway.asNew_prune (g : Gateway) (now : Nat) : (g.prune now).asNew = g.asNew := by
  have hroute : ∀ route : Route,
      ({ route with filters := Filter.pruneFirst now route.filters } : Route).asNew =
        route.asNew := by
    intro route
    unfold Route.asNew
    rw [Filter.asNew_pruneFirst]
  unfold prune asNew
  rw [List.map_map]
  exact congrArg (fun routes => { g with routes }) (List.map_congr_left fun route _ => hroute route)

/-- **Whatever happens**: a gateway that has been reached is one that was set up, but for traces. -/
theorem Gateway.Reached.asNew_eq {s : Settings} {g : Gateway} (h : Reached s g) :
    ∃ (now : Nat) (p : Parts s now), g.asNew = p.gateway.asNew := by
  induction h with
  | built h =>
    obtain ⟨p, rfl⟩ := build_yields h
    exact ⟨_, p, rfl⟩
  | served _ net fresh r scene ih =>
    obtain ⟨now, p, hp⟩ := ih
    exact ⟨now, p, (asNew_serve net fresh r scene _).trans hp⟩
  | pruned _ now' ih =>
    obtain ⟨now, p, hp⟩ := ih
    exact ⟨now, p, (asNew_prune _ now').trans hp⟩

theorem Route.first?_asNew (path : List Char) (routes : List Route) :
    first? path (routes.map Route.asNew) = (first? path routes).map Route.asNew := by
  unfold first?
  rw [List.find?_map]
  rfl

/-- **Routes stay**: the route that a gateway takes is the one that was set up, but for traces. -/
theorem Gateway.Reached.exists_route {s : Settings} {g : Gateway} (h : Reached s g)
    {path : List Char} {route : Route} (hroute : Route.first? path g.routes = some route) :
    ∃ (now : Nat) (p : Parts s now) (own : Route), Route.first? path p.routes = some own ∧
      route.asNew = own.asNew := by
  obtain ⟨now, p, hp⟩ := h.asNew_eq
  have hroutes : g.routes.map Route.asNew = p.routes.map Route.asNew := congrArg Gateway.routes hp
  have hfirst := Route.first?_asNew path g.routes
  rw [hroutes, Route.first?_asNew, hroute] at hfirst
  obtain ⟨own, hown, heq⟩ := Option.map_eq_some_iff.mp hfirst
  exact ⟨now, p, own, hown, heq.symm⟩

/-- What the route for a path does to a request on its way to the destination: its filters do not
name it, and it is stamped with the name of the gateway or not at all; on the throttled route it
is. -/
theorem Gateway.Reached.of_first? {s : Settings} {g : Gateway} (h : Reached s g)
    {path : List Char} {route : Route} (hroute : Route.first? path g.routes = some route) :
    Filter.requestId ∉ route.filters ∧
      (route.requestStamp = none ∨
        route.requestStamp = some (proxyByName, .ofString s.gatewayName)) ∧
      ((PathPattern.under "/api").accepts path = true →
        route.requestStamp = some (proxyByName, .ofString s.gatewayName)) := by
  obtain ⟨now, p, own, hown, heq⟩ := h.exists_route hroute
  have hmem : own ∈ p.routes := List.mem_of_find?_eq_some hown
  have hstamp : route.requestStamp = own.requestStamp := by
    have hnew := congrArg Route.requestStamp heq
    exact hnew
  rw [hstamp, ← p.stamp_value]
  refine ⟨fun hid => ?_, p.requestStamp_cases hmem, fun hpath => p.requestStamp_of_api hpath hown⟩
  exact p.requestId_not_mem hmem
    (Filter.requestId_mem_of_asNew_eq (congrArg Route.filters heq) hid)

end Turnstile

import Turnstile.Proofs.Gateway.Counters
/-!
  What traffic changes for other traffic.

  1. **Program** (`Gateway.run`) — requests come to a gateway, each with what the network does for
     it, and from time to time the gateway is pruned.

  2. **Answers** (`serve_congr`, `Parts.serve_eq_of_owns`) — what is answered depends on the first
     route for the path and on nothing else that the gateway keeps, so a request that belongs to a
     counter is answered by this counter.

  3. **The invariant** — two runs, of which one has the requests of one counter only, agree on this
     counter at every event (`Parts.run_of_filter_eq`).  By induction on the events.

  4. **Headline** (`untouched_behind`) — what is rejected, and what goes another way, is not seen.
-/

namespace Turnstile

/-! ## Program -/

/-- What happens to a gateway. -/
inductive GatewayEvent where
  /-- A request, with what the network does for it. -/
  | visit (v : Visit) (net : Network Unit)
  | prune (now : Nat)

/-- Whether it is a request that belongs to a counter, or no request. -/
def GatewayEvent.isOf (c : Counter) : GatewayEvent → Bool
  | visit v _ => c.owns v.request
  | prune _ => true

/-- What is answered to a request, logged about it, and recorded of it. -/
structure Reply where
  visit : Visit
  response : Response
  span : Span
  scene : Scene Unit

/-- Whether a reply is to a request that belongs to a counter. -/
def Reply.isOf (c : Counter) (a : Reply) : Bool := c.owns a.visit.request

namespace Gateway

/-- Serves a request. -/
def reply (g : Gateway) (v : Visit) (net : Network Unit) : Reply × Gateway :=
  let (a, span, g', s) := g.serve net v.fresh v.request ⟨v.now, v.wall, [], [], ()⟩
  (⟨v, a, span, s⟩, g')

theorem reply_fst (g : Gateway) (v : Visit) (net : Network Unit) :
    (g.reply v net).1 =
      ⟨v, (g.serve net v.fresh v.request ⟨v.now, v.wall, [], [], ()⟩).1,
        (g.serve net v.fresh v.request ⟨v.now, v.wall, [], [], ()⟩).2.1,
        (g.serve net v.fresh v.request ⟨v.now, v.wall, [], [], ()⟩).2.2.2⟩ := rfl

/-- The replies to the requests among some events, and the gateway after the events. -/
def run (g : Gateway) : List GatewayEvent → List Reply × Gateway
  | [] => ([], g)
  | .visit v net :: rest =>
    let (replies, last) := run (g.reply v net).2 rest
    ((g.reply v net).1 :: replies, last)
  | .prune now :: rest => run (g.prune now) rest

theorem run_visit (g : Gateway) (v : Visit) (net : Network Unit) (rest : List GatewayEvent) :
    g.run (.visit v net :: rest) =
      ((g.reply v net).1 :: ((g.reply v net).2.run rest).1, ((g.reply v net).2.run rest).2) := rfl

end Gateway

/-! ## Answers -/

namespace Route

/-- Where no path belongs to two routes, the first for a path is any that accepts it. -/
theorem first?_of_mem {routes : List Route}
    (apart : routes.Pairwise fun a b => a.pattern.Apart b.pattern) {route : Route}
    (h : route ∈ routes) {path : List Char} (haccepts : route.pattern.accepts path = true) :
    first? path routes = some route := by
  induction routes with
  | nil => cases h
  | cons head rest ih =>
    rw [List.pairwise_cons] at apart
    rw [first?_cons]
    rcases List.mem_cons.mp h with rfl | hrest
    · rw [if_pos haccepts]
    · have hhead : head.pattern.accepts path = false := by
        rw [← Bool.not_eq_true]
        intro hhead
        rw [(apart.1 route hrest).not_accepts hhead] at haccepts
        cases haccepts
      rw [hhead, if_neg Bool.false_ne_true, ih apart.2 hrest]

theorem first?_withCounters (k : Counters) (path : List Char) (routes : List Route) :
    first? path (routes.map (·.withCounters k)) = (first? path routes).map (·.withCounters k) := by
  unfold first?
  rw [List.find?_map]
  rfl

variable {σ : Type} (net : Network σ) (limit : Nat) (fresh : HeaderValue) (r : Request)
  (s : Scene σ)

/-- What comes of a request comes from the first route for its path. -/
theorem serveFirst_eq_first? (routes : List Route) :
    (serveFirst limit net fresh r s routes).map (fun x => (x.1, x.2.2)) =
      (first? r.uri.path.toList routes).map fun route =>
        ((route.serve limit net fresh r s).1, (route.serve limit net fresh r s).2.2) := by
  rw [serveFirst_eq]
  cases hi : routes.findIdx? fun route => route.pattern.accepts r.uri.path.toList with
  | none =>
    have hnone : first? r.uri.path.toList routes = none := by
      rw [List.findIdx?_eq_none_iff] at hi
      exact List.find?_eq_none.mpr fun route hroute => by simp [hi route hroute]
    rw [hnone]
    rfl
  | some i =>
    rw [first?_of_findIdx? hi, Option.bind_some, Option.map_map]
    rfl

end Route

namespace Gateway

section

variable {σ : Type} (net : Network σ) (fresh : HeaderValue) (s : Scene σ) {g : Gateway}
  {routes : List Route}

theorem serveByRoute_congr (r : Request)
    (hfirst : Route.first? r.uri.path.toList routes = Route.first? r.uri.path.toList g.routes) :
    (({ g with routes } : Gateway).serveByRoute net fresh r s).1 =
        (g.serveByRoute net fresh r s).1 ∧
      (({ g with routes } : Gateway).serveByRoute net fresh r s).2.2 =
        (g.serveByRoute net fresh r s).2.2 := by
  have hserved := Route.serveFirst_eq_first? net g.maxBody fresh r s g.routes
  rw [← hfirst, ← Route.serveFirst_eq_first?] at hserved
  unfold serveByRoute
  cases hlocal : LocalRoute.at? r.uri.path with
  | some l =>
    have hanswer : ({ g with routes } : Gateway).localAnswer s l = g.localAnswer s l := by
      cases l <;> rfl
    dsimp only
    rw [hanswer]
    split <;> exact ⟨rfl, rfl⟩
  | none =>
    dsimp only
    cases hg : Route.serveFirst g.maxBody net fresh r s g.routes with
    | none =>
      rw [hg] at hserved
      rw [Option.map_eq_none_iff.mp hserved.symm]
      exact ⟨rfl, rfl⟩
    | some x =>
      rw [hg] at hserved
      obtain ⟨y, hy, heq⟩ := Option.map_eq_some_iff.mp hserved.symm
      injection heq with hresponse hscene
      rw [hy]
      exact ⟨congrArg (Response.ofRoute r.method) hresponse, hscene⟩

/-- **Answers** depend on the first route for the path and on nothing else that is kept. -/
theorem serve_congr {r : Request}
    (hfirst : Route.first? r.uri.path.toList routes = Route.first? r.uri.path.toList g.routes) :
    (({ g with routes } : Gateway).serve net fresh r s).1 = (g.serve net fresh r s).1 ∧
      (({ g with routes } : Gateway).serve net fresh r s).2.1 = (g.serve net fresh r s).2.1 ∧
      (({ g with routes } : Gateway).serve net fresh r s).2.2.2 =
        (g.serve net fresh r s).2.2.2 := by
  obtain ⟨hresponse, hscene⟩ := serveByRoute_congr net fresh s (r.named fresh) hfirst
  rw [serve_eq, serve_eq]
  refine ⟨?_, rfl, hscene⟩
  dsimp only
  rw [hresponse]
  rfl

end

namespace Parts

variable {s : Settings} {made : Nat} (p : Parts s made) {k k' : Counters} {c : Counter}

/-- Beside its counter, the route of a counter has none. -/
theorem exists_route (c : Counter) :
    ∃ route ∈ p.routes, route.pattern = c.pattern ∧
      ∀ f ∈ route.filters, Counter.of? f = none ∨ Counter.of? f = some c := by
  unfold routes
  cases c with
  | api =>
    refine ⟨_, List.mem_cons_self, rfl, fun f hf => .inr ?_⟩
    obtain rfl := List.mem_singleton.mp hf
    rfl
  | rate =>
    refine ⟨_, List.mem_cons_of_mem _ List.mem_cons_self, rfl, fun f hf => .inr ?_⟩
    obtain rfl := List.mem_singleton.mp hf
    rfl
  | get =>
    refine ⟨⟨.exactly "/get", [.host (HostGlob.parse "**.throttle.org"),
      .throttle "throttle_org" p.getBucket], none, none, p.get.withLead demoLead⟩, by simp, rfl, ?_⟩
    intro f hf
    rcases List.mem_pair.mp hf with rfl | rfl
    · exact .inl rfl
    · exact .inr rfl

/-- What belongs to a counter takes a route that does not change with the others. -/
theorem first?_of_owns {r : Request} (owned : c.owns r = true) (same : k.filter c = k'.filter c) :
    Route.first? r.uri.path.toList (p.gateway.withCounters k).routes =
      Route.first? r.uri.path.toList (p.gateway.withCounters k').routes := by
  obtain ⟨route, hroute, hpattern, hfilters⟩ := p.exists_route c
  have haccepts : route.pattern.accepts r.uri.path.toList = true := by
    rw [Counter.owns_eq, Bool.and_eq_true] at owned
    rw [hpattern]
    exact owned.1
  have hfirst : Route.first? r.uri.path.toList p.gateway.routes = some route :=
    Route.first?_of_mem p.apart hroute haccepts
  have hplace : route.filters.map k.place = route.filters.map k'.place := by
    refine List.map_congr_left fun f hf => ?_
    unfold Counters.place
    rcases hfilters f hf with hnone | hsome
    · rw [hnone]
    · rw [hsome]
      exact same
  show Route.first? _ (p.gateway.routes.map (·.withCounters k)) =
    Route.first? _ (p.gateway.routes.map (·.withCounters k'))
  rw [Route.first?_withCounters, Route.first?_withCounters, hfirst]
  show some { route with filters := route.filters.map k.place } =
    some { route with filters := route.filters.map k'.place }
  rw [hplace]

/-- **The step**: a request that belongs to a counter gets the same reply wherever this counter is
the same. -/
theorem reply_of_owns {v : Visit} (owned : c.owns v.request = true)
    (same : k.filter c = k'.filter c) (net : Network Unit) :
    ((p.gateway.withCounters k).reply v net).1 = ((p.gateway.withCounters k').reply v net).1 := by
  have hgateway : p.gateway.withCounters k =
      { p.gateway.withCounters k' with routes := (p.gateway.withCounters k).routes } := rfl
  obtain ⟨hresponse, hspan, hscene⟩ :=
    serve_congr net v.fresh ⟨v.now, v.wall, [], [], ()⟩ (p.first?_of_owns owned same)
  rw [← hgateway] at hresponse hspan hscene
  rw [reply_fst, reply_fst, hresponse, hspan, hscene]

theorem reply_snd (v : Visit) (net : Network Unit) (k : Counters) :
    ((p.gateway.withCounters k).reply v net).2 =
      p.gateway.withCounters (k.serve v.now v.request) :=
  p.serve_withCounters k net v.fresh v.request ⟨v.now, v.wall, [], [], ()⟩

/-- **The run**: two runs that agree on a counter, of which the second has no other requests.  By
induction on the events; what is counted elsewhere comes to the first run only. -/
theorem run_of_filter_eq (same : k.filter c = k'.filter c) (events : List GatewayEvent) :
    let run := (p.gateway.withCounters k).run events
    let own := (p.gateway.withCounters k').run (events.filter (·.isOf c))
    run.1.filter (·.isOf c) = own.1 ∧ run.2.counting? c = own.2.counting? c := by
  induction events generalizing k k' with
  | nil =>
    refine ⟨rfl, ?_⟩
    show (p.gateway.withCounters k).counting? c = (p.gateway.withCounters k').counting? c
    rw [p.counting?_withCounters, p.counting?_withCounters, same]
  | cons e rest ih =>
    cases e with
    | visit v net =>
      have hfilter := k.filter_serve v.now v.request c
      cases howned : c.owns v.request with
      | true =>
        -- both runs have the request, and the counter judges it alike
        have hnext : (k.serve v.now v.request).filter c = (k'.serve v.now v.request).filter c := by
          rw [hfilter, k'.filter_serve, same]
        obtain ⟨hreplies, hlast⟩ := ih hnext
        have hkept : GatewayEvent.isOf c (.visit v net) = true := howned
        have hreply : ((p.gateway.withCounters k).reply v net).1.isOf c = true := howned
        rw [List.filter_cons_of_pos hkept, run_visit, run_visit, p.reply_snd, p.reply_snd]
        refine ⟨?_, hlast⟩
        rw [List.filter_cons_of_pos hreply, p.reply_of_owns howned same net, hreplies]
      | false =>
        -- the request goes another way, and the second run does not have it
        have hnext : (k.serve v.now v.request).filter c = k'.filter c := by
          rw [hfilter, howned, if_neg Bool.false_ne_true, same]
        obtain ⟨hreplies, hlast⟩ := ih hnext
        have hkept : ¬ GatewayEvent.isOf c (.visit v net) = true := by
          show ¬ c.owns v.request = true
          rw [howned]
          exact Bool.false_ne_true
        have hreply : ¬ ((p.gateway.withCounters k).reply v net).1.isOf c = true := hkept
        rw [List.filter_cons_of_neg hkept, run_visit, p.reply_snd]
        refine ⟨?_, hlast⟩
        rw [List.filter_cons_of_neg hreply]
        exact hreplies
    | prune now => exact ih (Counters.filter_prune_congr same)

end Parts

end Gateway

/-! ## Headline -/

open Turnstile.Filter in
/-- **Headline.**  What is rejected leaves everything behind it untouched, and so does what goes
another way.

A request that the filter at a position rejects is served as if the chain ended there: nothing
behind is changed, measured or reported.  In a run, the filters behind the position answer and hold
what they do in a run of the visits that those up to it let through; and if those in front of it do
not count, a run without the visits that are rejected there gives the same answers and ends in the
same state.

Of a gateway, a request changes the counter that it belongs to and no other, and what belongs to a
counter is answered as if nothing else had come. -/
theorem untouched_behind {σ : Type} (stage : Stage σ) (outer : List Filter) (f : Filter)
    (inner : List Filter) (b : σ) (visits : List Visit) {settings : Settings} {g : Gateway}
    (reached : Gateway.Reached settings g) (c : Counter) (events : List GatewayEvent) :
    -- one request
    (∀ (fresh : HeaderValue) (r : Request) (s : Scene σ) (other : Stage σ),
      rejectedAt? s.now r (outer ++ f :: inner) = some outer.length →
      serveThrough fresh stage (outer ++ f :: inner) r s =
        let (o, upto, s') := serveThrough fresh other (outer ++ [f]) r s
        (o, upto ++ inner, s')) ∧
    -- a run, as it is to the filters behind
    (let front := outer ++ [f]
      let run := runThrough stage (outer ++ f :: inner) b visits
      let alone := runThrough stage inner b (letThrough front visits)
      run.2 = ((runThrough idle front () visits).2.1 ++ alone.2.1, alone.2.2) ∧
      (run.1.filter (·.passes front.length)).map (fun v => (v.cut, v.outcome)) =
        alone.1.map (·.handedBack front)) ∧
    -- a run, without the visits that are rejected
    ((∀ h ∈ outer, h.counts = false) → f.Reached →
      let run := runThrough stage (outer ++ f :: inner) b visits
      let kept := run.1.filter (·.cut ≠ some outer.length)
      runThrough stage (outer ++ f :: inner) b (kept.map (·.visit)) = (kept, run.2)) ∧
    -- a request to a gateway
    (∀ {τ : Type} (net : Network τ) (fresh : HeaderValue) (r : Request) (scene : Scene τ),
      ∃ counter, g.counting? c = some counter ∧
        (g.serve net fresh r scene).2.2.1.counting? c =
          some (if c.owns r then counter.after scene.now r else counter)) ∧
    -- traffic through a gateway
    (let run := g.run events
      let own := g.run (events.filter (·.isOf c))
      run.1.filter (·.isOf c) = own.1 ∧ run.2.counting? c = own.2.counting? c) := by
  refine ⟨?_, ?_, ?_, ?_, ?_⟩
  · intro fresh r s other rejected
    exact serveThrough_of_rejectedAt fresh stage rejected other
  · have hchain : outer ++ f :: inner = (outer ++ [f]) ++ inner := by
      rw [List.append_assoc, List.singleton_append]
    rw [hchain]
    exact runThrough_append stage (outer ++ [f]) inner b visits
  · intro free hreached
    exact runThrough_kept stage free hreached inner b visits
  · intro τ net fresh r scene
    exact reached.counting?_serve net fresh r scene c
  · obtain ⟨made, p, k, rfl⟩ := reached.exists_counters
    exact p.run_of_filter_eq rfl events

open Turnstile.Filter in
/-- A throttle behind a host filter, where one of three visits is for another host; and the standard
gateway, where one of three requests is for the throttled route. -/
theorem untouched_behind_of_other_host :
    let f := host (HostGlob.parse "a.org")
    let inner := [throttle "t" ⟨1, 1, .never⟩]
    let stage : Stage Unit := fun _ s => (.answered (.bare 200), s)
    let request (path asked : String) : Request :=
      ⟨"GET", ⟨none, none, path, none⟩, [("host", .ofString asked)], [], none⟩
    let visit (now : Nat) (path asked : String) : Visit :=
      ⟨now, 0, .ofString "7", request path asked⟩
    let run := runThrough stage (f :: inner) ()
      [visit 0 "/" "a.org", visit 1 "/" "b.org", visit 2 "/" "a.org"]
    let kept := run.1.filter (·.cut ≠ some 0)
    let g := Gateway.Parts.standard.gateway
    let down : Network Unit := fun _ s => (.failed .connect, s)
    let events : List GatewayEvent :=
      [.visit (visit 0 "/get" "b.throttle.org") down, .visit (visit 1 "/api/users" "a.org") down,
        .prune 2, .visit (visit 3 "/get" "b.throttle.org") down]
    let scene : Scene Unit := ⟨1, 0, [], [], ()⟩
    rejectedAt? 1 (request "/" "b.org") (f :: inner) = some 0 ∧
    (serveThrough (.ofString "7") stage (f :: inner) (request "/" "b.org") scene).2 =
      ([f] ++ inner, scene) ∧
    f.Reached ∧
    run.1.map (·.cut) = [none, some 0, some 1] ∧
    runThrough stage (f :: inner) () (kept.map (·.visit)) = (kept, run.2) ∧
    Gateway.Reached .standard g ∧
    events.map (·.isOf .get) = [true, false, true, true] ∧
    (g.run events).1.filter (·.isOf .get) = (g.run (events.filter (·.isOf .get))).1 := by
  intro f inner stage request visit run kept g down events scene
  have hcut : rejectedAt? 1 (request "/" "b.org") (f :: inner) = some 0 := by decide
  have hfree : ∀ h ∈ ([] : List Filter), h.counts = false := fun h hh => nomatch hh
  have hreached : f.Reached := .host _
  have hgateway : Gateway.Reached .standard g := .built Gateway.build_standard
  obtain ⟨hone, -, hkept, -, htraffic⟩ := untouched_behind stage [] f inner ()
    [visit 0 "/" "a.org", visit 1 "/" "b.org", visit 2 "/" "a.org"] hgateway .get events
  have hserved := hone (.ofString "7") (request "/" "b.org") scene idle hcut
  refine ⟨hcut, ?_, hreached, by decide, hkept hfree hreached, hgateway, by decide, htraffic.1⟩
  rw [List.nil_append] at hserved
  rw [hserved]
  rfl

end Turnstile

import Turnstile.Gateway.Basic
import Turnstile.Proofs.Filter.Chain
/-!
  What the gateway sends to destinations.

  1. **The record** (`Network.recording`) — every network can be made to keep a record of what is
     sent.  Serving with a record gives the same answers, the same gateway and the same scene as
     serving without (`serve_recording`).

  2. **Once** (`record_serve`) — while the gateway serves a request, at most one request is sent.
     It goes to the destination of the first route for the path, and is what that route makes of the
     request once it is named.
-/

namespace Turnstile

/-! ## Serving, step by step -/

/-- The response as the client gets it: with the name of the gateway and that of the request. -/
def Gateway.signed (g : Gateway) (id : HeaderValue) (a : Response) : Response :=
  { g.stamped a with headers := Headers.insert (g.stamped a).headers Filter.requestIdName id }

/-- Serving is naming the request, serving it by its route, and signing the response. -/
theorem Gateway.serve_eq {σ : Type} (net : Network σ) (fresh : HeaderValue) (g : Gateway)
    (r : Request) (s : Scene σ) :
    g.serve net fresh r s =
      (g.signed (Filter.requestIdFor fresh r.headers)
          (g.serveByRoute net fresh (r.named fresh) s).1,
        Gateway.spanOf (r.named fresh),
        (g.serveByRoute net fresh (r.named fresh) s).2.1,
        (g.serveByRoute net fresh (r.named fresh) s).2.2) := rfl

/-! ## Keeping a record -/

/-- A network that keeps a record of what is sent, in front of what it is made from. -/
def Network.recording {σ : Type} (net : Network σ) : Network (List Outbound × σ) := fun o s =>
  let (x, after) := net o { s with behind := s.behind.2 }
  (x, { after with behind := (s.behind.1 ++ [o], after.behind) })

theorem Network.recording_unrecorded {σ : Type} (net : Network σ) (o : Outbound)
    (s : Scene (List Outbound × σ)) :
    net o s.unrecorded = ((net.recording o s).1, (net.recording o s).2.unrecorded) := rfl

section

variable {σ : Type} (net : Network σ) (limit : Nat)

theorem Proxy.exchange_unrecorded (d : Destination) (r : Request)
    (s : Scene (List Outbound × σ)) :
    Proxy.exchange net d r s.unrecorded = ((Proxy.exchange net.recording d r s).1,
      (Proxy.exchange net.recording d r s).2.unrecorded) := by
  unfold Proxy.exchange
  split
  · exact net.recording_unrecorded _ s
  · rfl

theorem Proxy.stage_unrecorded (d : Destination) :
    Stage.Unrecorded (Proxy.stage limit net.recording d) (Proxy.stage limit net d) := by
  intro r s
  have hexchange := Proxy.exchange_unrecorded net d r s
  unfold Proxy.stage Proxy.stageFor Proxy.forward
  rw [hexchange]
  cases Proxy.refusal? limit .complete r with
  | some fault => rfl
  | none =>
    cases Proxy.exchange net.recording d r s with
    | mk x after => cases x <;> rfl

theorem Route.stage_unrecorded (route : Route) :
    Stage.Unrecorded (route.stage limit net.recording) (route.stage limit net) := by
  intro r s
  have hproxy := Proxy.stage_unrecorded net limit route.destination (route.stampRequest r) s
  unfold Route.stage
  rw [hproxy]
  cases Proxy.stage limit net.recording route.destination (route.stampRequest r) s with
  | mk o after => cases o <;> rfl

end

section

variable {σ : Type} (net : Network σ) (limit : Nat) (fresh : HeaderValue) (r : Request)

theorem Route.serve_unrecorded (route : Route) (s : Scene (List Outbound × σ)) :
    route.serve limit net fresh r s.unrecorded =
      ((route.serve limit net.recording fresh r s).1,
        (route.serve limit net.recording fresh r s).2.1,
        (route.serve limit net.recording fresh r s).2.2.unrecorded) := by
  unfold Route.serve
  rw [Filter.serveThrough_unrecorded (route.stage_unrecorded net limit)]

theorem Route.serveFirst_unrecorded (routes : List Route) (s : Scene (List Outbound × σ)) :
    Route.serveFirst limit net fresh r s.unrecorded routes =
      (Route.serveFirst limit net.recording fresh r s routes).map fun x =>
        (x.1, x.2.1, x.2.2.unrecorded) := by
  induction routes with
  | nil => rfl
  | cons route rest ih =>
    unfold Route.serveFirst
    split
    · rw [Route.serve_unrecorded]
      rfl
    · rw [ih, Option.map_map, Option.map_map]
      rfl

theorem Gateway.serveByRoute_unrecorded (g : Gateway) (s : Scene (List Outbound × σ)) :
    g.serveByRoute net fresh r s.unrecorded = ((g.serveByRoute net.recording fresh r s).1,
      (g.serveByRoute net.recording fresh r s).2.1,
      (g.serveByRoute net.recording fresh r s).2.2.unrecorded) := by
  unfold Gateway.serveByRoute
  split
  · rename_i l hl
    have hanswer : g.localAnswer s.unrecorded l = g.localAnswer s l := by cases l <;> rfl
    rw [hanswer]
    split <;> rfl
  · rw [Route.serveFirst_unrecorded]
    cases Route.serveFirst g.maxBody net.recording fresh r s g.routes <;> rfl

/-- **A record changes nothing**: serving with one is serving without. -/
theorem Gateway.serve_recording (g : Gateway) (s : Scene (List Outbound × σ)) :
    g.serve net fresh r s.unrecorded = ((g.serve net.recording fresh r s).1,
      (g.serve net.recording fresh r s).2.1, (g.serve net.recording fresh r s).2.2.1,
      (g.serve net.recording fresh r s).2.2.2.unrecorded) := by
  rw [Gateway.serve_eq, Gateway.serve_eq, Gateway.serveByRoute_unrecorded]

end

/-! ## What is recorded -/

/-- Either nothing more is on record, or one more request. -/
def Recorded {σ : Type} (o : Outbound) (s after : Scene (List Outbound × σ)) : Prop :=
  after.behind.1 = s.behind.1 ∨ after.behind.1 = s.behind.1 ++ [o]

section

variable {σ : Type} (net : Network σ) (limit : Nat)

theorem Proxy.recorded_exchange (d : Destination) (r : Request) (s : Scene (List Outbound × σ)) :
    Recorded (Proxy.outbound d r) s (Proxy.exchange net.recording d r s).2 := by
  unfold Proxy.exchange
  split
  · exact .inr rfl
  · exact .inl rfl

theorem Proxy.recorded_stage (d : Destination) (r : Request) (s : Scene (List Outbound × σ)) :
    Recorded (Proxy.outbound d r) s (Proxy.stage limit net.recording d r s).2 := by
  have hexchange := Proxy.recorded_exchange net d r s
  unfold Proxy.stage Proxy.stageFor Proxy.forward
  cases Proxy.refusal? limit .complete r with
  | some fault => exact .inl rfl
  | none =>
    cases hx : Proxy.exchange net.recording d r s with
    | mk x after =>
      rw [hx] at hexchange
      cases x <;> exact hexchange

/-- The first route for a path. -/
def Route.first? (path : List Char) (routes : List Route) : Option Route :=
  routes.find? fun route => route.pattern.accepts path

theorem Route.first?_cons (path : List Char) (route : Route) (rest : List Route) :
    first? path (route :: rest) =
      if route.pattern.accepts path then some route else first? path rest := by
  unfold first?
  rw [List.find?_cons]
  cases route.pattern.accepts path <;> rfl

/-- The first route for a path is the one at its position. -/
theorem Route.first?_of_findIdx? {path : List Char} {routes : List Route} {i : Nat}
    (h : (routes.findIdx? fun route => route.pattern.accepts path) = some i) :
    first? path routes = routes[i]? := by
  obtain ⟨hi, haccepts, hearlier⟩ := List.findIdx?_eq_some_iff_getElem.mp h
  rw [List.getElem?_eq_getElem hi]
  refine List.find?_eq_some_iff_getElem.mpr ⟨haccepts, i, hi, rfl, fun j hj => ?_⟩
  rw [Bool.not_eq_true', ← Bool.not_eq_true]
  exact hearlier j hj

/-- What a route sends for a request. -/
def Route.outbound (route : Route) (fresh : HeaderValue) (r : Request) : Outbound :=
  Proxy.outbound route.destination (route.stampRequest (Filter.passed fresh route.filters r))

theorem Route.recorded_stage (route : Route) (r : Request) (s : Scene (List Outbound × σ)) :
    Recorded (Proxy.outbound route.destination (route.stampRequest r)) s
      (route.stage limit net.recording r s).2 := by
  have hproxy := Proxy.recorded_stage net limit route.destination (route.stampRequest r) s
  unfold Route.stage
  cases hstage : Proxy.stage limit net.recording route.destination (route.stampRequest r) s with
  | mk o after =>
    rw [hstage] at hproxy
    cases o <;> exact hproxy

variable (fresh : HeaderValue) (r : Request) (s : Scene (List Outbound × σ))

theorem Route.recorded_serve (route : Route) :
    Recorded (route.outbound fresh r) s (route.serve limit net.recording fresh r s).2.2 := by
  show Recorded _ s
    (Filter.serveThrough fresh (route.stage limit net.recording) route.filters r s).2.2
  rcases Filter.behind_serveThrough fresh (route.stage limit net.recording) route.filters r s with
    hbehind | ⟨s₀, hs₀, hbehind⟩
  · exact .inl (by rw [hbehind])
  · -- the filters have changed the clock and what is measured, but not the record
    have hstage := route.recorded_stage net limit (Filter.passed fresh route.filters r) s₀
    unfold Recorded at hstage ⊢
    rw [hs₀] at hstage
    rw [hbehind]
    exact hstage

theorem Route.recorded_serveFirst {routes after : List Route} {a : Response}
    {s' : Scene (List Outbound × σ)}
    (h : Route.serveFirst limit net.recording fresh r s routes = some (a, after, s')) :
    ∃ route, first? r.uri.path.toList routes = some route ∧
      Recorded (route.outbound fresh r) s s' := by
  obtain ⟨i, route, hi, hroute, -, -, rfl⟩ := Route.exists_of_serveFirst h
  exact ⟨route, (Route.first?_of_findIdx? hi).trans hroute,
    route.recorded_serve net limit fresh r s⟩

theorem Gateway.recorded_serveByRoute (g : Gateway) :
    (g.serveByRoute net.recording fresh r s).2.2.behind.1 = s.behind.1 ∨
      ∃ route, Route.first? r.uri.path.toList g.routes = some route ∧
        Recorded (route.outbound fresh r) s (g.serveByRoute net.recording fresh r s).2.2 := by
  unfold Gateway.serveByRoute
  split
  · split <;> exact .inl rfl
  · cases hfirst : Route.serveFirst g.maxBody net.recording fresh r s g.routes with
    | none => exact .inl rfl
    | some x =>
      obtain ⟨a, after, s'⟩ := x
      exact .inr (Route.recorded_serveFirst net g.maxBody fresh r s hfirst)

/-- **Once**: while a request is served, nothing is put on record, or what the first route for the
path makes of the named request. -/
theorem Gateway.record_serve (g : Gateway) :
    (g.serve net.recording fresh r s).2.2.2.behind.1 = s.behind.1 ∨
      ∃ route, Route.first? r.uri.path.toList g.routes = some route ∧
        (g.serve net.recording fresh r s).2.2.2.behind.1 =
          s.behind.1 ++ [route.outbound fresh (r.named fresh)] := by
  rw [Gateway.serve_eq]
  rcases g.recorded_serveByRoute net fresh (r.named fresh) s with
    hnothing | ⟨route, hroute, hnothing | hsent⟩
  · exact .inl hnothing
  · exact .inl hnothing
  · exact .inr ⟨route, hroute, hsent⟩

end

end Turnstile

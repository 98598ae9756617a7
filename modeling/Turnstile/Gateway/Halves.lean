import Turnstile.Gateway.Basic
/-!
  Serving a request in two halves.

  While a destination is being asked, the gateway serves other requests.  This is possible since the
  state of the gateway after a request does not depend on what the network does
  (`gateway_serve_eq`): the filters judge a request before it is forwarded.  So a request is first
  served with a network that only takes note of what is sent, which gives the gateway for the
  requests after it.  Once the answer is there, the same request is served again by the gateway as
  it was, now with a network that gives this answer.
-/

namespace Turnstile

/-- A network that takes note of what is sent. -/
def Network.noting : Network (Option Outbound) := fun o s =>
  (.failed .connect, { s with behind := some o })

/-- A network that gives one answer after some time. -/
def Network.answering (x : Exchange) (time : Nat) : Network Unit := fun _ s => (x, s.advance time)

namespace Filter

/-- The filters after a request do not depend on the stage behind them. -/
theorem filters_serveThrough_eq {σ τ : Type} (fresh : HeaderValue) (stage : Stage σ)
    (stage' : Stage τ) (filters : List Filter) (r : Request) (s : Scene σ) (s' : Scene τ)
    (h : s.now = s'.now) :
    (serveThrough fresh stage filters r s).2.1 = (serveThrough fresh stage' filters r s').2.1 := by
  induction filters generalizing r s s' with
  | nil => rfl
  | cons f rest ih =>
    simp only [serveThrough, h]
    match f.judge s'.now r with
    | (some _, _, _) => rfl
    | (none, f', events) =>
      exact congrArg (f' :: ·) (ih (f.passedOn fresh r) (s.measure events) (s'.measure events) h)

end Filter

namespace Route

/-- The routes after a request do not depend on the network. -/
theorem routes_serveFirst_eq {σ τ : Type} (limit : Nat) (net : Network σ) (net' : Network τ)
    (fresh : HeaderValue) (r : Request) (s : Scene σ) (s' : Scene τ) (h : s.now = s'.now)
    (routes : List Route) :
    (serveFirst limit net fresh r s routes).map (·.2.1) =
      (serveFirst limit net' fresh r s' routes).map (·.2.1) := by
  induction routes with
  | nil => rfl
  | cons route rest ih =>
    simp only [serveFirst]
    split
    · simp only [serve, Option.map_some]
      rw [Filter.filters_serveThrough_eq fresh _ (route.stage limit net') _ r s s' h]
    · generalize serveFirst limit net fresh r s rest = x at ih ⊢
      generalize serveFirst limit net' fresh r s' rest = y at ih ⊢
      cases x <;> cases y <;> simp_all

end Route

namespace Gateway

/-- The gateway after a request does not depend on the network. -/
theorem gateway_serve_eq {σ τ : Type} (net : Network σ) (net' : Network τ) (fresh : HeaderValue)
    (g : Gateway) (r : Request) (s : Scene σ) (s' : Scene τ) (h : s.now = s'.now) :
    (g.serve net fresh r s).2.2.1 = (g.serve net' fresh r s').2.2.1 := by
  simp only [serve, serveByRoute]
  split
  · split <;> rfl
  · have key := Route.routes_serveFirst_eq g.maxBody net net' fresh
      { r with headers := Headers.insert r.headers Filter.requestIdName
                (Filter.requestIdFor fresh r.headers) } s s' h g.routes
    split <;> split <;> simp_all

/-- What is sent to a destination for a request, if anything is, and the gateway after the
request. -/
def ask (g : Gateway) (fresh : HeaderValue) (r : Request) (now : Nat) : Option Outbound × Gateway :=
  let (_, _, after, s) := g.serve Network.noting fresh r ⟨now, 0, [], [], none⟩
  (s.behind, after)

/-- The response to a request, given the answer of its destination and the time that it took, with
what is recorded on the way. -/
def conclude (g : Gateway) (fresh : HeaderValue) (r : Request) (now wall : Nat) (x : Exchange)
    (time : Nat) : Response × Span × Scene Unit :=
  let (a, span, _, s) := g.serve (Network.answering x time) fresh r ⟨now, wall, [], [], ()⟩
  (a, span, s)

end Gateway

end Turnstile

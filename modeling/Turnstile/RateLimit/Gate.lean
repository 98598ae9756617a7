import Turnstile.RateLimit.Key
import Turnstile.RateLimit.Limiter
/-!
  A limiter together with the rule that says which requests it counts together.
-/

namespace Turnstile

/-- Why settings make no rate gate. -/
inductive RateLimitError where
  | zeroRate
  deriving DecidableEq, Repr

def RateLimitError.message : RateLimitError → String
  | .zeroRate => "replenish rate must be greater than 0"

/-- Admits requests at a rate of their own for each key. -/
structure RateGate where
  /-- The requests a second that each key is promised. -/
  rate : Nat
  rule : KeyRule
  proxies : TrustedProxies
  limiter : Limiter
  deriving DecidableEq, Repr

namespace RateGate

/-- A gate that has seen no request yet. -/
def create (rate burst : UInt32) (rule : KeyRule) (proxies : TrustedProxies) (now : Nat) :
    Except RateLimitError RateGate :=
  if rate = 0 then .error .zeroRate
  else .ok ⟨rate.toNat, rule, proxies, .create (.perSecond rate.toNat burst.toNat) now⟩

/-- Judges a request by its key. -/
def check (g : RateGate) (now : Nat) (r : Request) : Verdict × RateGate :=
  let (verdict, limiter) := g.limiter.check (g.rule.key g.proxies r) now
  (verdict, { g with limiter })

/-- Forgets the keys that behave like new ones. -/
def prune (g : RateGate) (now : Nat) : RateGate := { g with limiter := g.limiter.prune now }

/-- The answer to a refused request. -/
def refusal (g : RateGate) (wait : Nat) : Response :=
  let answer := Response.plain 429 "Rate limit exceeded. Please retry later."
  { answer with
    headers := answer.headers ++
      [("retry-after", .ofString (toString (Limiter.retryAfter wait))),
       ("x-ratelimit-limit", .ofString (toString g.rate)),
       ("x-ratelimit-remaining", .ofString "0")] }

end RateGate

end Turnstile

import Turnstile.Gateway.Basic
import Turnstile.Log.Line
import Turnstile.Settings.Basic
/-!
  Setting up the gateway.

  The routes are set up one after the other from the settings, and the first thing that cannot be
  set up ends it.  On the way, lines are logged and the timer that prunes the keyed limiter is
  started; what was done before a failure stays done, so the journal is kept on failure too.
-/

namespace Turnstile

/-- Why the gateway cannot be set up. -/
inductive BuildProblem where
  /-- The name of the gateway cannot stand in a header. -/
  | badName
  /-- The throttle of a route cannot be set up. -/
  | badThrottle (path : String) (error : ThrottleError)
  /-- The destination of a route is no URL. -/
  | badDestination (route : String) (error : UrlError)
  /-- The keyed limiter cannot be set up. -/
  | badRateLimit (error : RateLimitError)
  deriving DecidableEq, Repr

namespace BuildProblem

/-- A problem in words. -/
def message : BuildProblem → String
  | badName => "Invalid GATEWAY_NAME: failed to parse header value"
  | badThrottle path error => s!"Invalid throttle for {path}: {error.message}"
  | badDestination route error => s!"Invalid upstream for {route}: {error.message}"
  | badRateLimit error => s!"Invalid rate limit: {error.message}"

/-- A problem as a fault. -/
def fault (p : BuildProblem) : Fault := .misconfigured p.message

end BuildProblem

/-- What has been done beside setting up routes. -/
structure Journal where
  lines : List LogLine
  /-- The intervals of the timers that were started for pruning, in nanoseconds. -/
  pruning : List Nat
  deriving DecidableEq, Repr

/-- Setting something up: with a journal, and possibly failing. -/
abbrev Build (α : Type) := ExceptT BuildProblem (StateM Journal) α

namespace Build

/-- Logs a line. -/
def log (level : LogLevel) (target message : String) (fields : List (String × LogValue)) :
    Build Unit :=
  modify fun j => { j with lines := j.lines ++ [⟨level, target, message, fields⟩] }

/-- Goes on with a result, or fails with a problem. -/
def ofExcept {ε α : Type} (problem : ε → BuildProblem) : Except ε α → Build α
  | .ok a => pure a
  | .error e => throw (problem e)

/-- Sets up the throttle of a route. -/
def throttle (route path : String) (s : ThrottleSettings) (now : Nat) : Build Filter := do
  let bucket ← ofExcept (.badThrottle path) (Bucket.create s now)
  log .debug "gateway_sample::filter::throttle" "Throttle bucket created"
    [("route", .quoted route), ("capacity", .number s.capacity.toNat),
     ("refill_tokens", .number s.refillTokens.toNat),
     ("refill_interval", .shown (Duration.text s.interval))]
  pure (.throttle route bucket)

/-- Sets up a destination. -/
def destination (name url : String) (strip : Nat) : Build Destination :=
  ofExcept (.badDestination name) (Destination.create name url strip)

/-- Sets up the ranges of trusted proxies, and warns of the texts that denote none. -/
def trustedProxies (texts : List String) : Build TrustedProxies := do
  let target := "gateway_sample::filter::ip"
  for text in TrustedProxies.rejected texts do
    log .warn target "Invalid CIDR range in TRUSTED_PROXIES, skipping" [("cidr", .shown text)]
  let proxies := TrustedProxies.ofTexts texts
  if proxies.isEnabled then
    log .debug target "Trusted proxy validation enabled" [("count", .number proxies.ranges.length)]
  pure proxies

/-- Sets up the keyed limiter. -/
def rateGate (s : Settings) (proxies : TrustedProxies) (now : Nat) : Build Filter := do
  let gate ← ofExcept .badRateLimit (RateGate.create s.rate s.burst s.keyRule proxies now)
  log .debug "gateway_sample::filter::rate_limit" "Keyed rate limiter configured"
    [("replenish_rate", .number s.rate.toNat), ("burst_capacity", .number (max s.burst.toNat 1)),
     ("resolver", .shown s.keyRule.name)]
  pure (.rateGate gate)

/-- Starts the timer that prunes the keyed limiter. -/
def startPruning (interval : Nat) : Build Unit := do
  let target := "gateway_sample::state"
  if interval = 0 then log .debug target "Rate limit key pruning disabled" []
  else
    modify fun j => { j with pruning := j.pruning ++ [interval] }
    log .debug target "Rate limit key pruning started"
      [("interval", .shown (Duration.text interval))]

end Build

namespace Gateway

/-- The field that names the gateway on the requests that it forwards on its throttled route. -/
def proxyByName : String := "x-proxy-by"

/-- The path in front of what is left of a path on the demo routes. -/
def demoLead : String := "/httpbin"

/-- The settings of the throttle of the demo route. -/
def demoThrottle : ThrottleSettings := ⟨1, 1, 10, .seconds⟩

open Build in
/-- Sets up the gateway at `now`. -/
def build (s : Settings) (now : Nat) : Build Gateway := do
  let target := "gateway_sample::routes"
  let stamp ← match HeaderValue.ofString? s.gatewayName with
    | some v => pure v
    | none => throw .badName
  let apiThrottle ← throttle "api" "/api" s.throttle now
  log .info target "Throttle configured for /api/**"
    [("capacity", .number s.throttle.capacity.toNat),
     ("refill_tokens", .number s.throttle.refillTokens.toNat),
     ("refill_period", .number s.throttle.refillPeriod.toNat),
     ("refill_unit", .shown s.throttle.refillUnit.name)]
  let api ← destination "api" s.mainUrl 1
  let proxies ← trustedProxies s.trustedProxies
  let gate ← rateGate s proxies now
  startPruning s.pruneInterval
  log .info target "Keyed rate limiting configured for /gateway/rate/**"
    [("replenish_rate", .number s.rate.toNat), ("burst_capacity", .number s.burst.toNat),
     ("resolver", .shown s.keyRule.name), ("trusted_proxies", .number s.trustedProxies.length)]
  let rate ← destination "rate" s.mainUrl 2
  let timing ← destination "timing" s.timingUrl 1
  let png ← destination "anything_png" s.demoUrl 0
  let webp ← destination "image_webp" s.demoUrl 0
  let getThrottle ← throttle "throttle_org" "/get" demoThrottle now
  let get ← destination "throttle_get" s.demoUrl 0
  pure
    { title := s.gatewayName
      stamp
      maxBody := s.maxBody.toNat
      started := now
      routes :=
        [⟨.under "/api", [apiThrottle], some (proxyByName, stamp), none, api⟩,
         ⟨.under "/gateway/rate", [gate], none, none, rate⟩,
         ⟨.under "/timing", [.timing], none, none, timing⟩,
         ⟨.exactly "/anything/png", [.host (HostGlob.parse "**.abc.org")], none,
          some ("x-testheader", .ofString "foobar"), png.withLead demoLead⟩,
         ⟨.exactly "/image/webp", [], none, some ("x-anotherheader", .ofString "baz"),
          webp.withLead demoLead⟩,
         ⟨.exactly "/get", [.host (HostGlob.parse "**.throttle.org"), getThrottle], none, none,
          get.withLead demoLead⟩] }

end Gateway

end Turnstile

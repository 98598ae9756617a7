import Turnstile.Settings.Check
import Turnstile.Settings.Environment
/-!
  Settings from the environment.

  Each setting has a variable.  A variable that is not set leaves the setting at its standard, and
  one that cannot be read is an error; the variables are read in a fixed order, and the first error
  is reported.  Settings that were read are checked.
-/

namespace Turnstile

open Text

namespace Environment

/-- The value of a variable, read by `parse`, or `standard` if it is not set. -/
def read {α : Type} (e : Environment) (name : String) (parse : String → Except String α)
    (standard : α) : Except SettingProblem α :=
  match e.text? name with
  | none => .ok standard
  | some s =>
    match parse s with
    | .ok a => .ok a
    | .error reason => .error (.unreadable name reason)

/-- A parser of numerals, with its errors in words. -/
def inWords {α : Type} (parse : List Char → Except NumeralError α) (s : String) : Except String α :=
  match parse s.toList with
  | .ok a => .ok a
  | .error e => .error e.message

/-- The items of a list separated by commas, trimmed and without the empty ones. -/
def listItems (s : String) : List String :=
  (((split ',' s.toList).map trim).filter (!·.isEmpty)).map String.ofList

end Environment

namespace Settings

open Environment

/-- Reads the settings of the gateway. -/
def read (e : Environment) : Except SettingProblem Settings := do
  let d := standard
  let port ← e.read "PORT" (inWords uint16) d.port
  let timeout ← e.read "UPSTREAM_TIMEOUT_MS" (inWords (numeral bound64)) 3000
  let maxBody ← e.read "MAX_REQUEST_BODY_SIZE" (inWords uint64) d.maxBody
  let capacity ← e.read "THROTTLE_CAPACITY" (inWords uint32) d.throttle.capacity
  let refillTokens ← e.read "THROTTLE_REFILL_TOKENS" (inWords uint32) d.throttle.refillTokens
  let refillPeriod ← e.read "THROTTLE_REFILL_PERIOD" (inWords uint64) d.throttle.refillPeriod
  let refillUnit ← e.read "THROTTLE_REFILL_UNIT" TimeUnit.parse d.throttle.refillUnit
  let rate ← e.read "RATE_LIMIT_REPLENISH_RATE" (inWords uint32) d.rate
  let burst ← e.read "RATE_LIMIT_BURST_CAPACITY" (inWords uint32) d.burst
  let keyRule ← e.read "RATE_LIMIT_KEY_RESOLVER" KeyRule.parse d.keyRule
  let pruneSeconds ← e.read "RATE_LIMIT_PRUNE_INTERVAL_SECS" (inWords (numeral bound64)) 60
  let metricsPort ← e.read "METRICS_PORT" (inWords uint16) d.metricsPort
  pure
    { host := (e.text? "HOST").getD d.host
      port
      gatewayName := (e.text? "GATEWAY_NAME").getD d.gatewayName
      mainUrl := (e.text? "UPSTREAM_URL").getD d.mainUrl
      timingUrl := (e.text? "TIMING_UPSTREAM_URL").getD d.timingUrl
      demoUrl := (e.text? "HTTPBIN_URL").getD d.demoUrl
      timeout := Duration.ofMillis timeout
      maxBody
      throttle := ⟨capacity, refillTokens, refillPeriod, refillUnit⟩
      rate
      burst
      keyRule
      trustedProxies := ((e.text? "TRUSTED_PROXIES").map listItems).getD d.trustedProxies
      pruneInterval := pruneSeconds * Duration.second
      metricsPort }

/-- Reads and checks the settings of the gateway. -/
def load (e : Environment) : Except SettingProblem Settings := do
  let s ← read e
  s.check
  pure s

end Settings

namespace BackendSettings

open Environment

/-- Reads the settings of the sample backend. -/
def load (e : Environment) : Except SettingProblem BackendSettings := do
  let d := standard
  let port ← e.read "BACKEND_PORT" (inWords uint16) d.port
  let maxDelay ← e.read "BACKEND_MAX_DELAY_MS" (inWords uint64) d.maxDelay
  pure ⟨(e.text? "BACKEND_HOST").getD d.host, port, maxDelay⟩

end BackendSettings

end Turnstile

import Turnstile.Http.Header
import Turnstile.Settings.Basic
import Turnstile.Settings.Problem
import Turnstile.Url.Parse
/-!
  Checking settings before the gateway is set up.

  The checks come in a fixed order, and the first one that fails is reported.
-/

namespace Turnstile.Settings

/-- Checks that a destination is spoken to over HTTP. -/
def checkUrl (name value : String) : Except SettingProblem Unit :=
  match Url.parse value with
  | .error e => .error (.badUrl name value e)
  | .ok u =>
    if Url.isHttp u.scheme then .ok ()
    else .error (.otherScheme name (String.ofList u.scheme))

/-- Fails with a problem unless a condition holds. -/
def require (holds : Bool) (p : SettingProblem) : Except SettingProblem Unit :=
  if holds then .ok () else .error p

/-- Checks that the throttle can be set up. -/
def checkThrottle (s : ThrottleSettings) : Except SettingProblem Unit :=
  match Bucket.create s 0 with
  | .ok _ => .ok ()
  | .error e => .error (.badThrottle e)

/-- Checks settings. -/
def check (s : Settings) : Except SettingProblem Unit := do
  checkUrl "UPSTREAM_URL" s.mainUrl
  checkUrl "TIMING_UPSTREAM_URL" s.timingUrl
  checkUrl "HTTPBIN_URL" s.demoUrl
  require (s.timeout ≠ 0) (.zero "UPSTREAM_TIMEOUT_MS")
  require (s.maxBody ≠ 0) (.zero "MAX_REQUEST_BODY_SIZE")
  require (s.rate ≠ 0) (.zero "RATE_LIMIT_REPLENISH_RATE")
  require (HeaderValue.ofString? s.gatewayName).isSome (.badGatewayName s.gatewayName)
  checkThrottle s.throttle

end Turnstile.Settings

import Turnstile.Fault
import Turnstile.Text.Quoted
import Turnstile.Throttle
import Turnstile.Url.Basic
/-!
  What can be wrong with settings.
-/

namespace Turnstile

/-- Why settings are refused.  `name` is the name of the variable that is to blame. -/
inductive SettingProblem where
  /-- The text of a variable cannot be read. -/
  | unreadable (name reason : String)
  /-- A destination is no URL. -/
  | badUrl (name value : String) (error : UrlError)
  /-- A destination is not spoken to over HTTP. -/
  | otherScheme (name scheme : String)
  /-- A number that must not be zero is zero. -/
  | zero (name : String)
  /-- The name of the gateway cannot stand in a header. -/
  | badGatewayName (value : String)
  /-- The throttle cannot be set up. -/
  | badThrottle (error : ThrottleError)
  deriving DecidableEq, Repr

namespace SettingProblem

/-- A problem in words. -/
def message : SettingProblem → String
  | unreadable name reason => s!"Invalid {name}: {reason}"
  | badUrl name value error => s!"Invalid {name} ({value}): {error.message}"
  | otherScheme name scheme => s!"{name} must use http or https, got {scheme}"
  | zero name => s!"{name} must be greater than 0"
  | badGatewayName value => s!"GATEWAY_NAME ({Text.quoted value}) is not a valid header value"
  | badThrottle error => s!"THROTTLE_REFILL_PERIOD: {error.message}"

/-- A problem as a fault. -/
def fault (p : SettingProblem) : Fault := .misconfigured p.message

end SettingProblem

end Turnstile

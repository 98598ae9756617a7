import Turnstile.Address.Socket
import Turnstile.RateLimit.Key
import Turnstile.Throttle
/-!
  The settings of the gateway and of the sample backend.
-/

namespace Turnstile

/-- The settings of the gateway. -/
structure Settings where
  host : String
  port : UInt16
  /-- The name under which the gateway shows itself to clients and destinations. -/
  gatewayName : String
  /-- The destination of the throttled and of the rate-limited routes. -/
  mainUrl : String
  /-- The destination of the timed route. -/
  timingUrl : String
  /-- The destination of the routes that are bound to hosts. -/
  demoUrl : String
  /-- The nanoseconds that a destination has for its answer. -/
  timeout : Nat
  /-- The bytes that a forwarded body may have. -/
  maxBody : UInt64
  throttle : ThrottleSettings
  /-- The requests a second that the keyed limiter promises each key. -/
  rate : UInt32
  /-- The requests of one key that the keyed limiter lets through at once. -/
  burst : UInt32
  keyRule : KeyRule
  /-- The ranges whose peers are believed when they name a client; empty if everyone is. -/
  trustedProxies : List String
  /-- The nanoseconds between two prunings of the keyed limiter; none if zero. -/
  pruneInterval : Nat
  /-- The port on which metrics are served; none if zero. -/
  metricsPort : UInt16
  deriving DecidableEq, Repr

namespace Settings

/-- The settings in an environment that sets nothing. -/
def standard : Settings where
  host := "0.0.0.0"
  port := 8080
  gatewayName := "sample-gateway"
  mainUrl := "http://localhost:8081"
  timingUrl := "http://example.com"
  demoUrl := "http://httpbin.org:80"
  timeout := Duration.ofMillis 3000
  maxBody := 10485760
  throttle := .standard
  rate := 10
  burst := 20
  keyRule := .smart
  trustedProxies := []
  pruneInterval := 60 * Duration.second
  metricsPort := 9090

/-- The address to listen on, as text. -/
def listenText (s : Settings) : String := s!"{s.host}:{s.port}"

/-- Whether metrics are served. -/
def servesMetrics (s : Settings) : Bool := s.metricsPort ≠ 0

/-- The address on which metrics are served. -/
def metricsAddress? (s : Settings) : Option SocketAddr :=
  if s.servesMetrics then some ⟨.unspecified, s.metricsPort, 0⟩ else none

end Settings

/-- The settings of the sample backend. -/
structure BackendSettings where
  host : String
  port : UInt16
  /-- The longest time, in milliseconds, that a client can make an endpoint wait. -/
  maxDelay : UInt64
  deriving DecidableEq, Repr

namespace BackendSettings

/-- The settings in an environment that sets nothing. -/
def standard : BackendSettings := ⟨"0.0.0.0", 8081, 60000⟩

/-- The address to listen on, as text. -/
def listenText (s : BackendSettings) : String := s!"{s.host}:{s.port}"

end BackendSettings

end Turnstile

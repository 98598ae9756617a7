import Turnstile.Backend
import Turnstile.Gateway.Build
import Turnstile.Log.Selection
import Turnstile.Settings.Load
/-!
  Starting the two programs, up to the point where they serve, and what is logged when they stop.

  Starting reads the settings, sets up what is served, and takes an address to listen on.  Each step
  may end the program with an exit code; each is logged.  The machine that the program runs on is a
  value: it knows its addresses and which ports are taken, so that starting is a function from the
  environment and the machine to the lines that are logged and to what comes of it.
-/

namespace Turnstile

/-! ## The machine -/

/-- Why an address cannot be listened on. -/
inductive BindProblem where
  | taken
  /-- The address belongs to some other machine. -/
  | foreign
  deriving DecidableEq, Repr

def BindProblem.message : BindProblem → String
  | .taken => "Address already in use (os error 98)"
  | .foreign => "Cannot assign requested address (os error 99)"

/-- What matters of the machine that a program runs on. -/
structure Machine where
  /-- The ports that are listened on already. -/
  taken : List UInt16
  /-- The addresses of the machine, beside those that every machine has. -/
  addresses : List IpAddr
  deriving DecidableEq, Repr

namespace Machine

/-- Whether an address is one that every machine has: its own, or the one that stands for all. -/
def isEverywhere (a : IpAddr) : Bool :=
  match a with
  | .v4 bits => bits = 0 ∨ bits.toNat / 16777216 = 127
  | .v6 bits => bits = 0 ∨ bits = 1

/-- Listens on an address; port zero stands for any that is free. -/
def listen (m : Machine) (a : SocketAddr) : Except BindProblem Machine :=
  if !isEverywhere a.ip && a.ip ∉ m.addresses then .error .foreign
  else if a.port = 0 then .ok m
  else if a.port ∈ m.taken then .error .taken
  else .ok { m with taken := a.port :: m.taken }

end Machine

/-! ## Starting -/

/-- The exit code for settings that cannot be used. -/
def exitBadSettings : Nat := 78

/-- The exit code where an address cannot be listened on. -/
def exitUnavailable : Nat := 69

/-- The exit code where it cannot be told which log lines are wanted. -/
def exitBadSelection : Nat := 101

/-- Starting: with the lines logged so far and the machine, and possibly ending with an exit
code. -/
abbrev Launch (α : Type) := ExceptT Nat (StateM (List LogLine × Machine)) α

namespace Launch

/-- Logs a line. -/
def log (level : LogLevel) (target message : String) (fields : List (String × LogValue)) :
    Launch Unit :=
  modify fun (lines, m) => (lines ++ [⟨level, target, message, fields⟩], m)

/-- Logs an error and ends the program. -/
def giveUp {α : Type} (target message : String) (code : Nat) : Launch α := do
  log .error target message []
  throw code

/-- Tries to listen on an address. -/
def listen (a : SocketAddr) : Launch (Except BindProblem Unit) := do
  let (lines, m) ← get
  match m.listen a with
  | .ok m => set (lines, m); pure (.ok ())
  | .error e => pure (.error e)

/-- The address that a text denotes. -/
def address (target text : String) : Launch SocketAddr :=
  match SocketAddr.parse? text with
  | some a => pure a
  | none => giveUp target "Invalid server address: invalid socket address syntax" exitBadSettings

/-- Settings, or the end of the program. -/
def settings {α : Type} (target : String) : Except SettingProblem α → Launch α
  | .ok s => pure s
  | .error p =>
    giveUp target s!"Configuration error: {p.fault.message}" exitBadSettings

/-- Listens on the address on which the program serves. -/
def serveOn (target : String) (a : SocketAddr) : Launch Unit := do
  match ← listen a with
  | .ok () => pure ()
  | .error e => giveUp target s!"Failed to bind to {a}: {e.message}" exitUnavailable

/-- Serves metrics, if that is asked for; the program goes on if it cannot. -/
def metrics (s : Settings) : Launch Unit := do
  let target := "gateway_sample::metrics"
  match s.metricsAddress? with
  | none => log .info "gateway_sample" "Prometheus metrics disabled (METRICS_PORT=0)" []
  | some a =>
    match ← listen a with
    | .ok () =>
      log .info target "Prometheus metrics endpoint started" [("addr", .shown a.toString)]
    | .error e =>
      log .error target "Failed to initialize metrics, continuing without metrics"
        [("error", .shown ("Failed to install Prometheus exporter: " ++
          "failed to create HTTP listener: " ++ e.message))]

/-- Sets up the gateway, with the lines that this logs. -/
def setUp (s : Settings) (now : Nat) : Launch (Gateway × List Nat) := do
  let (result, journal) := (Gateway.build s now).run ⟨[], []⟩
  modify fun (lines, m) => (lines ++ journal.lines, m)
  match result with
  | .ok g => pure (g, journal.pruning)
  | .error p =>
    giveUp "gateway_sample" s!"Failed to build router: {p.fault.message}" exitBadSettings

/-- What the gateway says of its routes. -/
def routeLines : List String :=
  ["Routes:",
   "  ANY  /api/**            - Throttled, proxied to UPSTREAM_URL",
   "  ANY  /gateway/rate/**   - Keyed rate limit, proxied to UPSTREAM_URL",
   "  ANY  /timing/**         - Timed, proxied to TIMING_UPSTREAM_URL",
   "  GET  /anything/png      - Host **.abc.org, proxied to HTTPBIN_URL",
   "  GET  /image/webp        - Proxied to HTTPBIN_URL",
   "  GET  /get               - Host **.throttle.org, throttled, proxied to HTTPBIN_URL",
   "  ANY  /fallback          - Fallback response",
   "  GET  /actuator          - Management index"]

/-- Starts the gateway.  Gives the address it listens on, the gateway, and the intervals of the
timers that prune it. -/
def gateway (e : Environment) (now : Nat) : Launch (SocketAddr × Gateway × List Nat) := do
  let target := "gateway_sample"
  log .info target s!"Starting Gateway Sample v{Gateway.version}" []
  let s ← settings target (Settings.load e)
  log .info target "Configuration loaded"
    [("host", .shown s.host), ("port", .shown (toString s.port)), ("upstream", .shown s.mainUrl),
     ("timing_upstream", .shown s.timingUrl)]
  metrics s
  let a ← address target s.listenText
  let (g, pruning) ← setUp s now
  serveOn target a
  log .info target s!"Gateway listening on http://{a}" []
  for line in routeLines do
    log .info target line []
  pure (a, g, pruning)

/-- Starts the sample backend.  Gives the address it listens on, and the backend. -/
def backend (e : Environment) : Launch (SocketAddr × Backend) := do
  let target := "sample_server"
  let s ← settings target (BackendSettings.load e)
  let a ← address target s.listenText
  serveOn target a
  log .info target s!"Sample backend listening on http://{a}"
    [("max_delay_ms", .number s.maxDelay.toNat)]
  pure (a, .start s.maxDelay.toNat)

/-- The lines that starting logs, and what comes of it: an exit code, or something that serves. -/
def outcome {α : Type} (l : Launch α) (m : Machine) : List LogLine × Except Nat α :=
  let (result, lines, _) := l.run ([], m)
  (lines, result)

end Launch

/-! ## Running and stopping -/

/-- What makes a program stop. -/
inductive StopSignal where
  | interrupt
  | terminate
  deriving DecidableEq, Inhabited, Repr

namespace StopSignal

/-- The line that a signal to stop is answered with. -/
def line (s : StopSignal) : LogLine :=
  let name := match s with
    | interrupt => "Ctrl+C"
    | terminate => "SIGTERM"
  ⟨.warn, "gateway_sample::utils", s!"Received {name}, initiating graceful shutdown...", []⟩

end StopSignal

/-- What the gateway says when it has stopped serving, and `prunes` if it has a timer to stop. -/
def Gateway.stopLines (prunes : Bool) : List LogLine :=
  ⟨.info, "gateway_sample::state", "Stopping background tasks", []⟩ ::
    (if prunes then
      [⟨.debug, "gateway_sample::filter::rate_limit",
        "Rate limit pruning task received cancellation signal", []⟩] else []) ++
    [⟨.info, "gateway_sample::state", "All background tasks have completed", []⟩,
     ⟨.info, "gateway_sample", "Gateway shutdown complete", []⟩]

/-- What the sample backend says when it has stopped serving. -/
def Backend.stopLines : List LogLine := [⟨.info, "sample_server", "Sample backend stopped", []⟩]

/-- The line of a completion. -/
def Completion.line (c : Completion) : LogLine :=
  ⟨.info, "gateway_sample::filter::timing", c.message,
    [("method", .shown c.method), ("path", .shown c.path), ("status", .shown c.statusText),
     ("elapsed_ms", .number c.elapsedMillis)]⟩

/-! ## Logging -/

/-- How lines are logged: which of them, and in which form. -/
structure Logging where
  rules : List LogRule
  asJson : Bool

namespace Logging

/-- The way of logging that an environment asks for, if that can be told. -/
def ofEnvironment? (e : Environment) : Option Logging :=
  (LogSelection.ofText? (e.text? "RUST_LOG")).map fun rules =>
    ⟨rules, match e.text? "LOG_FORMAT" with
      | some s => Text.lower s.toList = "json".toList
      | none => false⟩

/-- The lines that are shown. -/
def shown (how : Logging) (lines : List LogLine) : List LogLine :=
  lines.filter (LogSelection.shows how.rules)

/-- A line in the form that is asked for, with the time at which it is logged. -/
def form (how : Logging) (time : String) (l : LogLine) : String :=
  if how.asJson then (Json.object (("timestamp", .string time) :: l.members)).text
  else time ++ " " ++ l.text

end Logging

/-- What a program that starts shows, and what comes of it.  Nothing is started before it is known
how to log. -/
def Launch.shown {α : Type} (l : Launch α) (how : Option Logging) (m : Machine) :
    List LogLine × Except Nat α :=
  match how with
  | none => ([], .error exitBadSelection)
  | some how =>
    let (lines, result) := l.outcome m
    (how.shown lines, result)

end Turnstile

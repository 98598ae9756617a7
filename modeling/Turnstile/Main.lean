import Std.Async.DNS
import Std.Async.Signal
import Std.Async.TCP
import Std.Async.Timer
import Turnstile.Gateway.Halves
import Turnstile.Launch
import Turnstile.Measurement.Exposition
import Turnstile.Proxy.Outbound
import Turnstile.Text.Uuid
/-!
  The command line.

  Without arguments the gateway is started, and with the argument `backend` the sample backend; both
  take their settings from the environment.  This module holds what happens outside: variables,
  clocks, connections and signals.  What is to be done is decided elsewhere.
-/

namespace Turnstile.Program

open Std.Async
open Std.Async.TCP.Socket (Server Client)

/-! ## Clocks, lots and log lines -/

/-- The milliseconds of the wall clock. -/
def wallMillis : IO Nat := do
  return (← Std.Time.Timestamp.now).toMillisecondsSinceUnixEpoch.val.toNat

/-- The present, as log lines show it. -/
def timeText : IO String := do
  let now := Std.Time.PlainDateTime.ofWallTime ((← Std.Time.Timestamp.now).toWallTime .zero)
  return now.format "uuuu-MM-dd'T'HH:mm:ss.SSSSSS'Z'"

/-- The nanoseconds of the clock that never goes back. -/
def clock : IO Nat := IO.monoNanosNow

/-- A name for a request that brings none. -/
def freshName : IO HeaderValue := do
  return .ofString (Text.Uuid.ofBytes (← IO.getRandomBytes 16).toList)

/-- Waits for some nanoseconds. -/
def pause (time : Nat) : Async Unit :=
  sleep (.ofNat (min (time / Duration.millisecond) Duration.maxSeconds))

/-- Logs lines. -/
def log (how : Logging) (lines : List LogLine) : IO Unit :=
  (how.shown lines).forM fun l => do
    IO.println (how.form (← timeText) l)
    (← IO.getStdout).flush

/-! ## Addresses -/

/-- An address as the network takes it. -/
def netAddress (a : IpAddr) : Std.Net.IPAddr :=
  let part (bits width i : Nat) : Nat := bits >>> (width * i)
  match a with
  | .v4 bits =>
    let p i := (part bits.toNat 8 i).toUInt8
    .v4 (.ofParts (p 3) (p 2) (p 1) (p 0))
  | .v6 bits =>
    let p i := (part bits.toNat 16 i).toUInt16
    .v6 (.ofParts (p 7) (p 6) (p 5) (p 4) (p 3) (p 2) (p 1) (p 0))

/-- An address that the network gives. -/
def addressOf (a : Std.Net.IPAddr) : IpAddr := (IpAddr.parse? a.toString).getD .unspecified

/-- A port at an address, as the network takes it. -/
def netSocket (a : Std.Net.IPAddr) (port : UInt16) : Std.Net.SocketAddress :=
  match a with
  | .v4 addr => .v4 ⟨addr, port⟩
  | .v6 addr => .v6 ⟨addr, port⟩

/-- The addresses of a host. -/
def addressesOf (host : List Char) (port : Nat) : Async (List Std.Net.IPAddr) := do
  let bare := (host.dropWhile (· = '[')).takeWhile (· ≠ ']')
  match IpAddr.read? bare with
  | some a => return [netAddress a]
  | none => return (← DNS.getAddrInfo (String.ofList host) (toString port)).toList

/-! ## Reading and writing messages -/

/-- How many bytes are taken from a connection at once. -/
def portion : UInt64 := 65536

/-- How long a head may be. -/
def maxHead : Nat := 262144

/-- Reads until there is a head. -/
partial def readHead (c : Client) (before : Bytes) : Async (Option (Bytes × Bytes)) := do
  match Wire.cutHead before with
  | some parts => return some parts
  | none =>
    if maxHead < before.length then return none
    match ← c.recv? portion with
    | none => return none
    | some b => readHead c (before ++ b.toList)

/-- Reads a body, or so much of it that it is longer than `limit`. -/
partial def readBody (c : Client) (limit : Nat) (r : Wire.BodyReader) : Async Wire.BodyReader := do
  if r.isDone || limit < r.reversed.length then return r
  match ← c.recv? portion with
  | none => return r
  | some b => readBody c limit (r.feedAll b.toList)

/-- Waits until the other side has had enough. -/
partial def awaitEnd (c : Client) : Async Unit := do
  match ← c.recv? portion with
  | none => return
  | some _ => awaitEnd c

/-- Sends bytes. -/
def send (c : Client) (b : Bytes) : Async Unit := c.send ⟨b.toArray⟩

/-! ## Destinations -/

/-- Connects to one of some addresses. -/
def connect (port : UInt16) : List Std.Net.IPAddr → Async (Option Client)
  | [] => return none
  | a :: rest => do
    let c ← Client.mk
    let connected ← try
        c.connect (netSocket a port)
        pure true
      catch _ => pure false
    if connected then return some c else connect port rest

/-- Sends a request over a connection and reads the response. -/
def converse (c : Client) (o : Outbound) : Async Exchange := do
  send c o.bytes
  let some (head, rest) ← readHead c [] | return .failed .transport
  let some (status, headers, framing) := Wire.responseHead? o.method head
    | return .failed .transport
  let reader ← readBody c Duration.maxSeconds ((Wire.BodyReader.start framing).feedAll rest)
  match reader.whole? with
  | some body => return .answered ⟨status, headers, body⟩
  | none => return .failed .transport

/-- Asks a destination.  Only plain connections are made, so one that wants more cannot be
reached. -/
def ask (o : Outbound) : Async Exchange := do
  if o.url.scheme ≠ "http".toList then return .failed .connect
  let addresses ← try addressesOf o.host o.port catch _ => pure []
  match ← connect o.port.toUInt16 addresses with
  | none => return .failed .connect
  | some c => try converse c o catch _ => return .failed .transport

/-- Asks a destination, which has so many nanoseconds for its answer. -/
def askWithin (timeout : Nat) (o : Outbound) : Async Exchange :=
  Async.race (ask o) do
    pause timeout
    return .failed .timeout

/-! ## Serving -/

/-- What answers requests; there may be none to a request. -/
abbrev Handler := Request → Async (Option Response)

/-- Reads one request from a connection, of whose body more than `limit` bytes do not matter, and
answers it. -/
def serveOne (limit : Nat) (handler : Handler) (c : Client) : Async Unit := do
  let peer := addressOf (← c.getPeerName).ipAddr
  let some (head, rest) ← readHead c [] | return
  let answer ← match Wire.requestHead? head with
    | none => pure (some (Response.bare 400))
    | some (method, uri, headers, framing) =>
      let tooLong := match framing with
        | .exactly n => decide (limit < n)
        | _ => false
      let start := (Wire.BodyReader.start framing).feedAll rest
      let reader ← if tooLong then pure start else readBody c limit start
      match if tooLong || limit < reader.reversed.length then some reader.body
          else reader.whole? with
      | none => pure (some (Response.bare 400))
      | some body => handler ⟨method, uri, headers, body, some peer⟩
  match answer with
  | some a => send c (Wire.responseBytes a.sized)
  | none => awaitEnd c
  c.shutdown

/-- Serves every connection, and counts those that are being served. -/
def serveAll (open_ : IO.Ref Nat) (limit : Nat) (handler : Handler) (s : Server) : Async Unit := do
  repeat
    let c ← s.accept
    open_.modify (· + 1)
    background do
      try serveOne limit handler c catch _ => pure ()
      open_.modify (· - 1)

/-- Waits for a signal to stop. -/
def awaitSignal : Async StopSignal := do
  let wait (signal : Signal) (meaning : StopSignal) : Async StopSignal := do
    let waiter ← Signal.Waiter.mk signal false
    discard (await (← waiter.wait))
    return meaning
  Async.race (wait .sigint .interrupt) (wait .sigterm .terminate)

/-- Waits until no connection is being served. -/
partial def awaitQuiet (open_ : IO.Ref Nat) : Async Unit := do
  if (← open_.get) = 0 then return
  pause (10 * Duration.millisecond)
  awaitQuiet open_

/-- Serves until a signal comes and what has begun is finished, and logs it. -/
def serveUntilStopped (how : Logging) (limit : Nat) (handler : Handler) (s : Server)
    (stopLines : List LogLine) : Async UInt32 := do
  let open_ ← IO.mkRef 0
  background (serveAll open_ limit handler s)
  let signal ← awaitSignal
  log how [signal.line]
  awaitQuiet open_
  log how stopLines
  return 0

/-! ## The gateway -/

/-- The gateway while it runs. -/
structure Running where
  gateway : Gateway
  tallies : List Tally

/-- Serves a request by the gateway. -/
def gatewayHandler (how : Logging) (timeout : Nat) (running : IO.Ref Running) : Handler :=
  fun r => do
    let fresh ← freshName
    let wall ← wallMillis
    let now ← clock
    let (outbound, before) ← running.modifyGet fun s =>
      let (outbound, after) := s.gateway.ask fresh r now
      ((outbound, s.gateway), { s with gateway := after })
    let exchange ← match outbound with
      | some o => askWithin timeout o
      | none => pure (.failed .connect)
    let (a, _, scene) := before.conclude fresh r now wall exchange ((← clock) - now)
    running.modify fun s => { s with tallies := Tally.addAll s.tallies scene.measured }
    log how (scene.completions.map Completion.line)
    return some a

/-- Prunes the gateway again and again. -/
def pruneForever (running : IO.Ref Running) (interval : Nat) : Async Unit := do
  repeat
    pause (max interval Duration.millisecond)
    let now ← clock
    running.modify fun s => { s with gateway := s.gateway.prune now }

/-- Serves what is measured. -/
def metricsHandler (running : IO.Ref Running) : Handler := fun _ => do
  return some (.plain 200 (Tally.text (← running.get).tallies))

/-! ## Starting -/

/-- Listens on an address, if that can be done. -/
def listen? (a : SocketAddr) : IO (Option Server) := do
  try
    let s ← Server.mk
    s.bind (netSocket (netAddress a.ip) a.port)
    s.listen 1024
    return some s
  catch _ => return none

/-- Listens on an address, and takes note of what that says about the machine. -/
def tryListen (m : Machine) (a : SocketAddr) : IO (Option Server × Machine) := do
  match ← listen? a with
  | some s => return (some s, { m with addresses := a.ip :: m.addresses })
  | none =>
    if (← listen? { a with port := 0 }).isSome then
      return (none, ⟨a.port :: m.taken, a.ip :: m.addresses⟩)
    else return (none, m)

/-- The definitions in the file `.env` in the working directory or in the next one above it. -/
def definitionFile : IO (Option String) := do
  let mut directory := some (← IO.currentDir)
  repeat
    match directory with
    | none => break
    | some d =>
      let file := d / ".env"
      if ← file.pathExists then
        return (← try some <$> IO.FS.readFile file catch _ => pure none)
      directory := d.parent
  return none

/-- The variables that the program is started with. -/
def environment : IO Environment := do
  return .ofBlock (← IO.FS.readBinFile "/proc/self/environ").toList

/-- Runs the gateway. -/
def runGateway (how : Logging) (e : Environment) : Async UInt32 := do
  let settings := (Settings.load e).toOption
  let metricsAddress := settings.bind Settings.metricsAddress?
  let address := settings.bind fun s => SocketAddr.parse? s.listenText
  let (metrics, machine) ← match metricsAddress with
    | some a => tryListen ⟨[], []⟩ a
    | none => pure (none, ⟨[], []⟩)
  let (server, machine) ← match address with
    | some a =>
      if metrics.isSome && metricsAddress.any (·.port = a.port) then pure (none, machine)
      else tryListen machine a
    | none => pure (none, machine)
  let now ← clock
  let (lines, outcome) := (Launch.gateway e now).outcome machine
  log how lines
  match outcome, server, settings with
  | .ok (_, gateway, intervals), some server, some s =>
    let running ← IO.mkRef (Running.mk gateway [])
    if let some m := metrics then
      background (serveAll (← IO.mkRef 0) 0 (metricsHandler running) m)
    intervals.forM fun interval => background (pruneForever running interval)
    serveUntilStopped how s.maxBody.toNat (gatewayHandler how s.timeout running) server
      (Gateway.stopLines !intervals.isEmpty)
  | .error code, _, _ => return code.toUInt32
  | _, _, _ => return exitUnavailable.toUInt32

/-- Runs the sample backend. -/
def runBackend (how : Logging) (e : Environment) : Async UInt32 := do
  let address := (BackendSettings.load e).toOption.bind fun s => SocketAddr.parse? s.listenText
  let (server, machine) ← match address with
    | some a => tryListen ⟨[], []⟩ a
    | none => pure (none, ⟨[], []⟩)
  let (lines, outcome) := (Launch.backend e).outcome machine
  log how lines
  match outcome, server with
  | .ok (_, backend), some server =>
    let state ← IO.mkRef backend
    let handler : Handler := fun r => do
      let coin := (← IO.rand 0 1) = 1
      let wall ← wallMillis
      let call ← state.modifyGet fun b => b.call r
      log how (Backend.line? coin call).toList
      match Backend.reply coin wall r call with
      | .after delay a =>
        pause (Duration.ofMillis delay)
        return some a
      | .never => return none
    serveUntilStopped how 0 handler server Backend.stopLines
  | .error code, _ => return code.toUInt32
  | _, _ => return exitUnavailable.toUInt32

end Turnstile.Program

/-- Runs the gateway, or the sample backend if that is asked for. -/
def main (arguments : List String) : IO UInt32 := do
  let given ← Turnstile.Program.environment
  match Turnstile.Logging.ofEnvironment? given with
  | none => return Turnstile.exitBadSelection.toUInt32
  | some how =>
    let e := match ← Turnstile.Program.definitionFile with
      | some file => given.withFile file
      | none => given
    (if arguments.head? = some "backend" then Turnstile.Program.runBackend how e
      else Turnstile.Program.runGateway how e).block

import Turnstile.Filter.Basic
/-!
  Rehearsing a chain of filters in front of a scripted stage.

  The stage does what its script says: it takes some time and then answers, fails, or stays silent.
  It remembers the requests that reached it.  A rehearsal sends requests through the chain, moves
  the clock and looks at the first rate gate, which may also be pruned by timers while the clock
  moves.
-/

namespace Turnstile

/-- What a scripted stage does in the end. -/
inductive Ending where
  | answers (response : Response)
  | fails (reason : String)
  | staysSilent
  deriving DecidableEq, Repr

/-- What a scripted stage does with a request. -/
structure Script where
  /-- The nanoseconds that pass first. -/
  takes : Nat
  ending : Ending
  deriving DecidableEq, Repr

namespace Script

/-- Answers every request at once. -/
def standard : Script := ⟨0, .answers ⟨200, [], Text.bytes "downstream"⟩⟩

/-- What comes of a request.  A status that no response can have makes the stage fail. -/
def outcome (s : Script) : Outcome :=
  match s.ending with
  | .answers response =>
    if isStatus response.status then .answered response else .failed "invalid status code"
  | .fails reason => .failed reason
  | .staysSilent => .abandoned

end Script

/-- A scripted stage with the requests that reached it. -/
structure Backstage where
  script : Script
  reached : List Request

namespace Backstage

/-- Plays the script for one request. -/
def play : Stage Backstage := fun r s =>
  let behind := { s.behind with reached := s.behind.reached ++ [r] }
  (behind.script.outcome, { s.advance behind.script.takes with behind })

end Backstage

/-- A timer that prunes a rate gate again and again. -/
structure PruneTimer where
  every : Nat
  /-- When it goes off next. -/
  due : Nat
  deriving DecidableEq, Repr

namespace PruneTimer

/-- A timer that is started at `now`. -/
def start (every now : Nat) : PruneTimer := ⟨every, now + every⟩

/-- Whether the timer goes off by `now`.  One that should go off all the time never does. -/
def isDue (now : Nat) (t : PruneTimer) : Bool := 0 < t.every && t.due ≤ now

/-- The timer after it went off as often as it should by `now`. -/
def renew (now : Nat) (t : PruneTimer) : PruneTimer :=
  if t.isDue now then { t with due := t.due + ((now - t.due) / t.every + 1) * t.every } else t

end PruneTimer

/-- Timers that were started one after the other. -/
structure PruneTimers where
  /-- When the first one was started. -/
  origin : Nat
  /-- The one that was started last, unless it was stopped. -/
  latest : Option PruneTimer
  /-- Those that were started before it.  They go on. -/
  earlier : List PruneTimer
  deriving DecidableEq, Repr

namespace PruneTimers

/-- The timers after one more is started, the first one perhaps. -/
def start (timers : Option PruneTimers) (every now : Nat) : PruneTimers :=
  match timers with
  | none => ⟨now, some (.start every now), []⟩
  | some t => ⟨t.origin, some (.start every now), t.latest.toList ++ t.earlier⟩

/-- The timers without the one that was started last. -/
def stop (t : PruneTimers) : PruneTimers := { t with latest := none }

/-- The time that the timers know: they count whole milliseconds since the first one was started. -/
def seen (t : PruneTimers) (now : Nat) : Nat :=
  t.origin + Duration.ofMillis (Duration.millis (now - t.origin))

/-- Whether a timer goes off by `now`, and the timers after that. -/
def ring (t : PruneTimers) (now : Nat) : Bool × PruneTimers :=
  let seen := t.seen now
  (t.latest.any (·.isDue seen) || t.earlier.any (·.isDue seen),
    { t with latest := t.latest.map (·.renew seen), earlier := t.earlier.map (·.renew seen) })

example : ((start none 3000000 5).ring 3000004).1 = false ∧
    ((start none 3000000 5).ring 3000005).1 = true := by decide
example : ((start (some (start none 1000000 0).stop) 1000000 500000).ring 1999999).1 = false := by
  decide

end PruneTimers

/-- A chain under rehearsal. -/
structure Rehearsal where
  filters : List Filter
  scene : Scene Backstage
  timers : Option PruneTimers

/-- One step of a rehearsal. -/
inductive RehearsalStep where
  /-- Sends a request, with a new script if there is one. -/
  | send (r : Request) (script : Option Script)
  /-- Sends the same request several times. -/
  | sendMany (times : Nat) (r : Request)
  /-- Moves the clock. -/
  | advance (time : Nat)
  | prune
  | countKeys
  | nameRule
  | startPruning (every : Nat)
  | stopPruning

/-- What one step of a rehearsal shows. -/
inductive RehearsalAnswer where
  | sent (o : Outcome) (reached : List Request) (completions : List Completion)
  /-- The statuses in order, and how many requests reached the stage; an outcome without response
  counts as status zero. -/
  | sentMany (statuses : List Nat) (reached : Nat)
  | advanced
  | keys (n : Nat)
  | rule (name : String)
  | pruningStarted
  | pruningStopped

namespace Rehearsal

/-- A chain that is rehearsed at wall-clock time `wall`. -/
def start (filters : List Filter) (script : Script) (wall : Nat) : Rehearsal :=
  ⟨filters, ⟨0, wall, [], [], ⟨script, []⟩⟩, none⟩

/-- Sends one request. -/
def send (fresh : HeaderValue) (r : Request) (h : Rehearsal) : Outcome × Rehearsal :=
  let (o, filters, scene) := Filter.serveThrough fresh Backstage.play h.filters r h.scene
  (o, { h with filters, scene })

/-- Sends a request several times; the statuses in order. -/
def sendMany (fresh : HeaderValue) (r : Request) : Nat → Rehearsal → List Nat × Rehearsal
  | 0, h => ([], h)
  | n + 1, h =>
    let (o, h) := h.send fresh r
    let (statuses, h) := sendMany fresh r n h
    ((match o with
      | .answered a => a.status
      | _ => 0) :: statuses, h)

/-- Moves the clock, and prunes if a timer goes off meanwhile. -/
def advance (h : Rehearsal) (time : Nat) : Rehearsal :=
  let scene := h.scene.advance time
  match h.timers with
  | none => { h with scene }
  | some timers =>
    let (rings, timers) := timers.ring scene.now
    { filters := if rings then Filter.pruneFirst scene.now h.filters else h.filters
      scene
      timers := some timers }

/-- How many keys the first rate gate remembers. -/
def tracked (h : Rehearsal) : Nat :=
  match Filter.firstGate? h.filters with
  | some gate => gate.limiter.tracked
  | none => 0

/-- Takes one step. -/
def step (fresh : HeaderValue) (h : Rehearsal) : RehearsalStep → RehearsalAnswer × Rehearsal
  | .send r script =>
    let behind : Backstage := ⟨script.getD h.scene.behind.script, []⟩
    let (o, after) := { h with scene := { h.scene with behind, completions := [] } }.send fresh r
    (.sent o after.scene.behind.reached after.scene.completions, after)
  | .sendMany times r =>
    let scene := { h.scene with behind := { h.scene.behind with reached := [] } }
    let (statuses, after) := { h with scene }.sendMany fresh r times
    (.sentMany statuses after.scene.behind.reached.length, after)
  | .advance time => (.advanced, h.advance time)
  | .prune =>
    let pruned := { h with filters := Filter.pruneFirst h.scene.now h.filters }
    (.keys pruned.tracked, pruned)
  | .countKeys => (.keys h.tracked, h)
  | .nameRule =>
    (.rule (match Filter.firstGate? h.filters with
      | some gate => gate.rule.name
      | none => ""), h)
  | .startPruning every =>
    (.pruningStarted, { h with timers := some (.start h.timers every h.scene.now) })
  | .stopPruning => (.pruningStopped, { h with timers := h.timers.map .stop })

/-- Takes several steps, one after the other. -/
def run (fresh : HeaderValue) : Rehearsal → List RehearsalStep → List RehearsalAnswer × Rehearsal
  | h, [] => ([], h)
  | h, s :: rest =>
    let (a, h) := h.step fresh s
    let (answers, h) := run fresh h rest
    (a :: answers, h)

end Rehearsal

end Turnstile

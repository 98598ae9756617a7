import Turnstile.Proofs.Filter.Run
/-!
  The calls of filters, and what is written down about them.

  1. **Calls** (`Filter.calls`) — while a chain serves a request, a filter of it is called once, or
     not at all if one in front rejects the request.  A call is the filter as it was, the request as
     it came to the filter, whether it was passed on, the outcome that was handed back, and when.

  2. **Notes** (`Call.rejection?`, `Call.completion`) — a call that is not passed on is counted, if
     the filter is one that counts; and a timing filter reports each of its calls.  Nothing else is
     written down: first what is counted, then the reports, the innermost first.  What stands behind
     a chain may write notes of calls too, and these come in between (`notes_serveThrough`).  By
     induction on the filters.
-/

namespace Turnstile

/-! ## Calls -/

/-- A call of a filter. -/
structure Call where
  /-- The filter as the request found it. -/
  filter : Filter
  /-- The request as it came to the filter. -/
  request : Request
  arrived : Nat
  /-- Whether the filter called what stands behind it. -/
  passedOn : Bool
  /-- What the filter handed back. -/
  outcome : Outcome
  returned : Nat
  deriving DecidableEq, Repr

namespace Filter

/-- The calls of the filters of a chain while it serves a request, the outermost first. -/
def calls {σ : Type} (fresh : HeaderValue) (stage : Stage σ) :
    List Filter → Request → Scene σ → List Call
  | [], _, _ => []
  | f :: rest, r, s =>
    let (answer, _, events) := f.judge s.now r
    let (o, _, after) := serveThrough fresh stage (f :: rest) r s
    ⟨f, r, s.now, answer.isNone, o, after.now⟩ ::
      if answer.isNone then calls fresh stage rest (f.passedOn fresh r) (s.measure events) else []

section

variable {σ : Type} (fresh : HeaderValue) (stage : Stage σ)

theorem calls_cons (f : Filter) (rest : List Filter) (r : Request) (s : Scene σ) :
    calls fresh stage (f :: rest) r s =
      ⟨f, r, s.now, f.admits s.now r, (serveThrough fresh stage (f :: rest) r s).1,
          (serveThrough fresh stage (f :: rest) r s).2.2.now⟩ ::
        if f.admits s.now r then calls fresh stage rest (f.passedOn fresh r) s else [] := by
  rw [calls]
  cases hf : f.admits s.now r with
  | true =>
    rw [judge_of_admits hf]
    dsimp only
    rw [Scene.measure_nil]
    rfl
  | false =>
    obtain ⟨answer, -, hjudge⟩ := judge_of_rejects hf
    rw [hjudge]
    rfl

/-- What a filter that admits a request makes of what comes from behind it. -/
theorem serveThrough_cons_of_admits {f : Filter} {r : Request} {s : Scene σ}
    (admitted : f.admits s.now r = true) (rest : List Filter) :
    let inner := serveThrough fresh stage rest (f.passedOn fresh r) s
    serveThrough fresh stage (f :: rest) r s =
      (f.handedBack fresh r inner.1, f.after s.now r :: inner.2.1,
        f.recorded r s.now inner.1 inner.2.2) := by
  rw [serveThrough, judge_of_admits admitted]
  dsimp only
  rw [Scene.measure_nil]

/-- A filter that keeps a request back leaves what is behind it alone. -/
theorem serveThrough_cons_of_rejects {f f' : Filter} {r : Request} {s : Scene σ}
    {answer : Response} {events : List Measurement}
    (kept : f.judge s.now r = (some answer, f', events)) (rest : List Filter) :
    serveThrough fresh stage (f :: rest) r s =
      (.answered answer, f' :: rest, s.measure events) := by
  rw [serveThrough, kept]

/-- **Where the calls come from**: each is of a filter of the chain, with the request as those in
front of it pass it on, when the request came to the chain. -/
theorem exists_of_mem_calls {filters : List Filter} {r : Request} {s : Scene σ} {c : Call}
    (hc : c ∈ calls fresh stage filters r s) :
    ∃ front behind, filters = front ++ c.filter :: behind ∧
      c.request = passed fresh front r ∧ c.arrived = s.now := by
  induction filters generalizing r with
  | nil => cases hc
  | cons f rest ih =>
    rw [calls_cons] at hc
    rcases List.mem_cons.mp hc with rfl | hc
    · exact ⟨[], rest, rfl, rfl, rfl⟩
    · split at hc
      · obtain ⟨front, behind, heq, hrequest, harrived⟩ := ih hc
        refine ⟨f :: front, behind, ?_, hrequest, harrived⟩
        rw [heq, List.cons_append]
      · cases hc

/-- Writing down takes no time. -/
theorem now_recorded (f : Filter) (r : Request) (start : Nat) (o : Outcome) (s : Scene σ) :
    (f.recorded r start o s).now = s.now := by
  cases f <;> rfl

/-- A filter takes no notice of what is kept behind it. -/
theorem recorded_unrecorded {α : Type} (f : Filter) (r : Request) (start : Nat) (o : Outcome)
    (s : Scene (α × σ)) :
    (f.recorded r start o s).unrecorded = f.recorded r start o s.unrecorded := by
  cases f <;> rfl

@[simp] theorem status?_handedBack (f : Filter) (r : Request) (o : Outcome) :
    (f.handedBack fresh r o).status? = o.status? := by
  cases f with
  | requestId => cases o <;> rfl
  | _ => rfl

end

/-! ## Notes -/

/-- What a filter counts when it keeps a request back. -/
def rejection? : Filter → Option Measurement
  | throttle route _ => some (.throttled route)
  | rateGate gate => some (.rateLimited gate.rule.name)
  | _ => none

theorem events_of_rejects {now : Nat} {r : Request} {f : Filter}
    (rejects : f.admits now r = false) : f.events now r = f.rejection?.toList := by
  unfold events
  cases f with
  | throttle route bucket =>
    have htaken : (bucket.take now).1 = false := rejects
    rw [judge_throttle, htaken]
    rfl
  | rateGate gate =>
    have hverdict : (gate.check now r).1 ≠ .admitted := of_decide_eq_false rejects
    rw [judge_rateGate]
    cases hcheck : (gate.check now r).1 with
    | admitted => exact absurd hcheck hverdict
    | refused wait => rfl
  | timing => cases rejects
  | host glob =>
    have haccepts : r.host?.any glob.accepts = false := rejects
    rw [judge_host, haccepts]
    rfl
  | requestId => cases rejects

end Filter

namespace Call

/-- What is counted of a call: nothing if it is passed on. -/
def rejection? (c : Call) : Option Measurement :=
  if c.passedOn then none else c.filter.rejection?

/-- What a timing filter reports of a call. -/
def completion (c : Call) : Completion :=
  ⟨c.request.method, c.request.uri.path, c.outcome.status?, c.returned - c.arrived⟩

/-- The calls of timing filters, the innermost first. -/
def timed (calls : List Call) : List Call :=
  (calls.filter fun c => c.filter = .timing).reverse

/-- What is measured of the calls of one chain for one request. -/
def measurements (calls : List Call) : List Measurement :=
  calls.filterMap rejection? ++ (timed calls).map fun c => c.completion.measurement

theorem timed_cons (c : Call) (calls : List Call) :
    timed (c :: calls) = timed calls ++ if c.filter = .timing then [c] else [] := by
  unfold timed
  by_cases htiming : c.filter = .timing
  · rw [List.filter_cons, decide_eq_true htiming, if_pos rfl, List.reverse_cons, if_pos htiming]
  · rw [List.filter_cons, decide_eq_false htiming, if_neg Bool.false_ne_true, if_neg htiming,
      List.append_nil]

/-- Of a call that is passed on nothing is counted, and reported if it is timed. -/
theorem measurements_cons {c : Call} (passed : c.passedOn = true) (calls : List Call) :
    measurements (c :: calls) = measurements calls ++
      if c.filter = .timing then [c.completion.measurement] else [] := by
  have hnone : c.rejection? = none := if_pos passed
  unfold measurements
  rw [List.filterMap_cons_none hnone, timed_cons, List.map_append, List.append_assoc]
  split <;> rfl

end Call

/-- **Notes**: what stands in the log after some calls, and stood there not before. -/
def Call.NotedIn {σ : Type} (calls : List Call) (before after : Scene σ) : Prop :=
  after.completions = before.completions ++ (timed calls).map completion ∧
    after.measured = before.measured ++ measurements calls

/-- A stage that writes down the notes of some calls, which depend on the request and the scene. -/
def Stage.Notes {σ : Type} (stage : Stage σ) (noted : Request → Scene σ → List Call) : Prop :=
  ∀ r s, Call.NotedIn (noted r s) s (stage r s).2

namespace Filter

section

variable {σ : Type} (fresh : HeaderValue) (stage : Stage σ)

/-- Only timing filters report. -/
theorem recorded_of_ne_timing {f : Filter} (hf : f ≠ .timing) (r : Request) (start : Nat)
    (o : Outcome) (s : Scene σ) : f.recorded r start o s = s := by
  cases f with
  | timing => exact absurd rfl hf
  | _ => rfl

/-- The first filter rejects: there is one call, and the note of it is that of the filter. -/
theorem notes_of_rejects {f : Filter} {r : Request} {s : Scene σ}
    (rejects : f.admits s.now r = false) (rest : List Filter) :
    Call.NotedIn (calls fresh stage (f :: rest) r s) s
      (serveThrough fresh stage (f :: rest) r s).2.2 := by
  obtain ⟨answer, -, hjudge⟩ := judge_of_rejects rejects
  have htiming : f ≠ .timing := by
    rintro rfl
    cases rejects
  have hserved : (serveThrough fresh stage (f :: rest) r s).2.2 =
      s.measure f.rejection?.toList := by
    rw [serveThrough_cons_of_rejects fresh stage hjudge, events_of_rejects rejects]
  rw [calls_cons, rejects, if_neg Bool.false_ne_true]
  unfold Call.NotedIn Call.measurements
  rw [hserved, Call.timed_cons, if_neg htiming]
  refine ⟨(List.append_nil _).symm, ?_⟩
  show s.measured ++ f.rejection?.toList = s.measured ++ (List.filterMap _ [_] ++ [])
  rw [List.append_nil]
  cases hrejection : f.rejection? with
  | none => simp [Call.rejection?, hrejection]
  | some m => simp [Call.rejection?, hrejection]

/-- The first filter admits: its note comes after those of the calls behind it. -/
theorem notes_of_admits {f : Filter} {r : Request} {s : Scene σ} (admits : f.admits s.now r = true)
    {rest : List Filter} {behind : List Call}
    (noted : Call.NotedIn behind s (serveThrough fresh stage rest (f.passedOn fresh r) s).2.2) :
    Call.NotedIn
      (⟨f, r, s.now, true, (serveThrough fresh stage (f :: rest) r s).1,
        (serveThrough fresh stage (f :: rest) r s).2.2.now⟩ :: behind) s
      (serveThrough fresh stage (f :: rest) r s).2.2 := by
  have hserved := serveThrough_cons_of_admits fresh stage admits rest
  obtain ⟨hcompletions, hmeasured⟩ := noted
  unfold Call.NotedIn
  rw [Call.timed_cons, Call.measurements_cons rfl, hserved]
  by_cases htiming : f = .timing
  · -- a timing filter reports last, since it is around those behind it
    subst htiming
    rw [if_pos rfl, if_pos rfl, List.map_append, ← List.append_assoc, ← List.append_assoc]
    exact ⟨congrArg (· ++ _) hcompletions, congrArg (· ++ _) hmeasured⟩
  · rw [recorded_of_ne_timing htiming, if_neg htiming, if_neg htiming, List.append_nil,
      List.append_nil]
    exact ⟨hcompletions, hmeasured⟩

/-- **One request**: what is written down are the notes of the calls of the filters and, if the
chain passes the request on, those of the stage. -/
theorem notes_serveThrough {stage : Stage σ} {noted : Request → Scene σ → List Call}
    (notes : stage.Notes noted) (filters : List Filter) (r : Request) (s : Scene σ) :
    Call.NotedIn
      (calls fresh stage filters r s ++
        if rejectedAt? s.now r filters = none then noted (passed fresh filters r) s else []) s
      (serveThrough fresh stage filters r s).2.2 := by
  induction filters generalizing r with
  | nil => exact notes r s
  | cons f rest ih =>
    have hcut : rejectedAt? s.now (f.passedOn fresh r) rest = rejectedAt? s.now r rest :=
      rejectedAt?_passed s.now fresh [f] r rest
    have hbehind := ih (f.passedOn fresh r)
    rw [hcut] at hbehind
    rw [rejectedAt?_cons]
    cases hadmits : f.admits s.now r with
    | true =>
      rw [calls_cons, hadmits, if_pos rfl, if_pos rfl, List.cons_append]
      simp only [Option.map_eq_none_iff]
      exact notes_of_admits fresh stage hadmits hbehind
    | false =>
      rw [if_neg Bool.false_ne_true, if_neg (Option.some_ne_none 0), List.append_nil]
      exact notes_of_rejects fresh stage hadmits rest

end

end Filter

end Turnstile

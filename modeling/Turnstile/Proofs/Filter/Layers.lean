import Mathlib.Data.List.Forall2
import Mathlib.Logic.Function.Basic
import Turnstile.Filter.Rehearsal
import Turnstile.Proofs.Filter.Calls
/-!
  Services that are built from shared layers, while the clock goes on.

  1. **Program** (`Layers.serve`, `Layers.run`) — filters are set up as layers, and services are
     built from layers, each from those that it needs, in its order, one layer perhaps twice.
     Layers are shared: a request finds their filters as the requests before it have left them.
     Each layer is a chain of one filter, in front of the rest of the service.  Time may pass before
     a filter is called, and between the end of what is behind it and its own.

  2. **No separate chain** (`serve_of_distinct`) — where the layers of a service are distinct and no
     time passes at them, the service does what a chain of their filters does.

  3. **Notes** (`notes_run`) — by induction on the layers, and on the events of a run, what has been
     written down in the end are the notes of all calls, in order.

  4. **The way** (`Call.Along`, `along_calls`) — a request comes to the layers of a service up to
     the first that keeps it back, and makes one call at each.

  5. **Nested** (`pairwise_calls`) — the clock never goes back, so a call begins after those around
     it and ends before them.
-/

namespace Turnstile

/-! ## Program -/

/-- Time that passes at a layer. -/
structure Pause where
  /-- Before the filter of the layer is called. -/
  before : Nat
  /-- From the end of what is behind the layer to the end of the call. -/
  after : Nat
  deriving DecidableEq, Repr

/-- A service, layer by layer from the outermost, with the time that passes while a request is on
its way through it. -/
abbrev Way (ι : Type) := List (ι × Pause)

/-- The layers of a service. -/
def Way.layers {ι : Type} (way : Way ι) : List ι := way.map (·.1)

/-- A stage whose end is noticed late. -/
def Stage.delayed {σ : Type} (time : Nat) (stage : Stage σ) : Stage σ := fun r s =>
  let (o, after) := stage r s
  (o, after.advance time)

/-- A stage beside something that it leaves alone. -/
def Stage.beside {α σ : Type} (stage : Stage σ) : Stage (α × σ) := fun r s =>
  let (o, after) := stage r s.unrecorded
  (o, { after with behind := (s.behind.1, after.behind) })

/-- Layers with their filters, in the scene in which services serve. -/
abbrev Layers (ι σ : Type) := Scene ((ι → Filter) × σ)

/-- What happens to layers. -/
inductive LayerEvent (ι : Type) where
  /-- A request to a service, with what the stage behind it does for it. -/
  | visit (way : Way ι) (v : Visit) (script : Script)
  /-- A layer is pruned, if its filter is a gate. -/
  | prune (layer : ι) (now : Nat)

/-- The layers of the service that is asked. -/
def LayerEvent.layers {ι : Type} : LayerEvent ι → List ι
  | visit way .. => way.layers
  | prune .. => []

/-- Forgets the keys that behave like new ones, if the filter is a gate. -/
def Filter.prune (now : Nat) : Filter → Filter
  | rateGate gate => rateGate (gate.prune now)
  | f => f

namespace Layers

section

variable {ι σ : Type}

/-- The filters of the layers. -/
def filters (l : Layers ι σ) : ι → Filter := l.behind.1

/-- Layers of which nothing is written down yet. -/
def start (filters : ι → Filter) : Layers ι Backstage :=
  ⟨0, 0, [], [], (filters, ⟨.standard, []⟩)⟩

/-- The layers as a visit finds them. -/
def visited (l : Layers ι Backstage) (v : Visit) (script : Script) : Layers ι Backstage :=
  { l with now := v.now, wall := v.wall, behind := (l.filters, { l.behind.2 with script }) }

end

variable {ι σ : Type} [DecidableEq ι]

/-- Puts a filter in the place of that of a layer. -/
def put (l : Layers ι σ) (i : ι) (f : Filter) : Layers ι σ :=
  { l with behind := (Function.update l.filters i f, l.behind.2) }

/-- The layers after the filter of one of them has judged a request. -/
def judged (l : Layers ι σ) (i : ι) (r : Request) : Layers ι σ :=
  l.put i ((l.filters i).after l.now r)

section

variable (fresh : HeaderValue) (stage : Stage σ)

/-- Serves a request by a service.  What the filter of a layer keeps is settled before the rest of
the service is called, which may come to the same layer again. -/
def serve : Way ι → Stage ((ι → Filter) × σ)
  | [] => stage.beside
  | (i, pause) :: rest => fun r l =>
    let arrived : Layers ι σ := l.advance pause.before
    let (o, _, after) := Filter.serveThrough fresh ((serve rest).delayed pause.after)
      [arrived.filters i] r (arrived.judged i r)
    (o, after)

/-- The calls of filters while a service serves a request, the outermost first. -/
def calls : Way ι → Request → Layers ι σ → List Call
  | [], _, _ => []
  | (i, pause) :: rest, r, l =>
    let arrived : Layers ι σ := l.advance pause.before
    let f := arrived.filters i
    Filter.calls fresh ((serve fresh stage rest).delayed pause.after) [f] r (arrived.judged i r) ++
      if f.admits arrived.now r then calls rest (f.passedOn fresh r) (arrived.judged i r) else []

end

/-- The calls of filters at an event. -/
def callsAt (l : Layers ι Backstage) : LayerEvent ι → List Call
  | .visit way v script => calls v.fresh Backstage.play way v.request (l.visited v script)
  | .prune .. => []

/-- The layers after an event. -/
def after (l : Layers ι Backstage) : LayerEvent ι → Layers ι Backstage
  | .visit way v script => (serve v.fresh Backstage.play way v.request (l.visited v script)).2
  | .prune layer now => l.put layer ((l.filters layer).prune now)

/-- The calls at each of some events, and the layers after the events. -/
def run (l : Layers ι Backstage) : List (LayerEvent ι) → List (List Call) × Layers ι Backstage
  | [] => ([], l)
  | e :: rest =>
    let (more, last) := run (l.after e) rest
    (l.callsAt e :: more, last)

/-! ## One layer -/

theorem filters_put_self (l : Layers ι σ) (i : ι) (f : Filter) : (l.put i f).filters i = f :=
  Function.update_self i _ _

theorem filters_put_other (l : Layers ι σ) {i j : ι} (other : j ≠ i) (f : Filter) :
    (l.put i f).filters j = l.filters j :=
  Function.update_of_ne other _ _

section

variable (fresh : HeaderValue) (stage : Stage σ) {i : ι} (pause : Pause) {r : Request}
  {l : Layers ι σ}

/-- The filter of a layer admits: the rest of the service comes to the outcome, after a while. -/
theorem serve_cons_of_admits
    (admits : (l.filters i).admits (l.now + pause.before) r = true) (rest : Way ι) :
    let arrived : Layers ι σ := l.advance pause.before
    let f := arrived.filters i
    let inner := serve fresh stage rest (f.passedOn fresh r) (arrived.judged i r)
    serve fresh stage ((i, pause) :: rest) r l =
      (f.handedBack fresh r inner.1,
        f.recorded r arrived.now inner.1 (inner.2.advance pause.after)) := by
  intro arrived f inner
  have hserved := Filter.serveThrough_cons_of_admits fresh
    ((serve fresh stage rest).delayed pause.after) (s := arrived.judged i r) admits []
  exact Prod.ext (congrArg (·.1) hserved) (congrArg (·.2.2) hserved)

/-- What the filter of a layer writes down leaves the layers alone. -/
theorem filters_serve_cons_of_admits
    (admits : (l.filters i).admits (l.now + pause.before) r = true) (rest : Way ι) (j : ι) :
    let arrived : Layers ι σ := l.advance pause.before
    let inner := serve fresh stage rest ((l.filters i).passedOn fresh r) (arrived.judged i r)
    filters (serve fresh stage ((i, pause) :: rest) r l).2 j = filters inner.2 j := by
  intro arrived inner
  rw [serve_cons_of_admits fresh stage pause admits rest]
  exact congrArg (fun behind : (ι → Filter) × σ => behind.1 j) (Filter.behind_recorded _ _ _ _ _)

/-- And it takes no time. -/
theorem now_serve_cons_of_admits
    (admits : (l.filters i).admits (l.now + pause.before) r = true) (rest : Way ι) :
    let arrived : Layers ι σ := l.advance pause.before
    let inner := serve fresh stage rest ((l.filters i).passedOn fresh r) (arrived.judged i r)
    (serve fresh stage ((i, pause) :: rest) r l).2.now = inner.2.now + pause.after := by
  intro arrived inner
  rw [serve_cons_of_admits fresh stage pause admits rest]
  exact Filter.now_recorded _ _ _ _ _

/-- The filter of a layer rejects: that is all. -/
theorem serve_cons_of_rejects {answer : Response} {f : Filter} {events : List Measurement}
    (kept : (l.filters i).judge (l.now + pause.before) r = (some answer, f, events))
    (rest : Way ι) :
    let arrived : Layers ι σ := l.advance pause.before
    serve fresh stage ((i, pause) :: rest) r l =
      (.answered answer, (arrived.judged i r).measure events) := by
  intro arrived
  have hserved := Filter.serveThrough_cons_of_rejects fresh
    ((serve fresh stage rest).delayed pause.after) (s := arrived.judged i r) kept []
  exact Prod.ext (congrArg (·.1) hserved) (congrArg (·.2.2) hserved)

/-- A layer makes one call; there are more behind it if its filter admits. -/
theorem calls_cons (rest : Way ι) :
    let arrived : Layers ι σ := l.advance pause.before
    let f := arrived.filters i
    let served := serve fresh stage ((i, pause) :: rest) r l
    calls fresh stage ((i, pause) :: rest) r l =
      ⟨f, r, arrived.now, f.admits arrived.now r, served.1, served.2.now⟩ ::
        if f.admits arrived.now r then
          calls fresh stage rest (f.passedOn fresh r) (arrived.judged i r) else [] := by
  intro arrived f served
  rw [calls, Filter.calls_cons]
  show _ :: ((if _ then [] else []) ++ _) = _
  rw [ite_self, List.nil_append]
  rfl

end

/-! ## No separate chain -/

section

variable (fresh : HeaderValue) (stage : Stage σ)

/-- **No separate chain**: where the layers of a service are distinct and no time passes at them, it
does what a chain of their filters does, and the layers keep what the chain keeps. -/
theorem serve_of_distinct {way : Way ι} (distinct : way.layers.Nodup)
    (still : ∀ step ∈ way, step.2 = ⟨0, 0⟩) (r : Request) (l : Layers ι σ) :
    let chain := Filter.serveThrough fresh stage (way.layers.map l.filters) r l.unrecorded
    let served := serve fresh stage way r l
    served.1 = chain.1 ∧ served.2.unrecorded = chain.2.2 ∧
      way.layers.map (filters served.2) = chain.2.1 ∧
      ∀ i ∉ way.layers, filters served.2 i = l.filters i := by
  induction way generalizing r l with
  | nil => exact ⟨rfl, rfl, rfl, fun _ _ => rfl⟩
  | cons step rest ih =>
    obtain ⟨i, pause⟩ := step
    obtain rfl : pause = ⟨0, 0⟩ := still _ List.mem_cons_self
    obtain ⟨hnew, hrest⟩ := List.nodup_cons.mp distinct
    have hown : (l.judged i r).filters i = (l.filters i).after l.now r := l.filters_put_self i _
    have hothers : ∀ j, j ≠ i → (l.judged i r).filters j = l.filters j := fun j hj =>
      l.filters_put_other hj _
    -- the rest of the service does not come to this layer again
    have hrestOwn : (Way.layers rest).map (l.judged i r).filters =
        (Way.layers rest).map l.filters :=
      List.map_congr_left fun j hj => hothers j fun heq => hnew (heq ▸ hj)
    intro chain served
    show served.1 = chain.1 ∧ _ = _ ∧ filters served.2 i :: _ = _ ∧ _
    cases hadmits : (l.filters i).admits l.now r with
    | true =>
      let f := l.filters i
      let inner := serve fresh stage rest (f.passedOn fresh r) (l.judged i r)
      let chained := Filter.serveThrough fresh stage ((Way.layers rest).map l.filters)
        (f.passedOn fresh r) l.unrecorded
      have hserved : served = (f.handedBack fresh r inner.1, f.recorded r l.now inner.1 inner.2) :=
        serve_cons_of_admits fresh stage ⟨0, 0⟩ hadmits rest
      have hchain : chain = (f.handedBack fresh r chained.1, f.after l.now r :: chained.2.1,
          f.recorded r l.now chained.1 chained.2.2) :=
        Filter.serveThrough_cons_of_admits fresh stage (s := l.unrecorded) hadmits _
      obtain ⟨houtcome, hscene, hfilters, hkept⟩ := ih hrest
        (fun step hstep => still step (List.mem_cons_of_mem _ hstep)) (f.passedOn fresh r)
        (l.judged i r)
      rw [hrestOwn] at houtcome hscene hfilters
      have hbehind : ∀ j, filters served.2 j = filters inner.2 j :=
        filters_serve_cons_of_admits fresh stage ⟨0, 0⟩ hadmits rest
      rw [hbehind, hkept i hnew, hown, hserved, hchain]
      refine ⟨congrArg (f.handedBack fresh r) houtcome, ?_, ?_, ?_⟩
      · rw [Filter.recorded_unrecorded, houtcome, hscene]
        rfl
      · rw [← hserved, List.map_congr_left fun j _ => hbehind j]
        exact congrArg (f.after l.now r :: ·) hfilters
      · intro j hj
        obtain ⟨hne, hmem⟩ := List.ne_and_not_mem_of_not_mem_cons hj
        rw [← hserved, hbehind, hkept j hmem, hothers j hne]
    | false =>
      obtain ⟨answer, -, hjudge⟩ := Filter.judge_of_rejects hadmits
      have hserved : served = _ := serve_cons_of_rejects fresh stage ⟨0, 0⟩ hjudge rest
      have hchain : chain = _ :=
        Filter.serveThrough_cons_of_rejects fresh stage (s := l.unrecorded) hjudge _
      rw [hserved, hchain]
      refine ⟨rfl, rfl, ?_, ?_⟩
      · exact (congrArg (· :: _) hown).trans (congrArg (_ :: ·) hrestOwn)
      · intro j hj
        exact hothers j (List.ne_and_not_mem_of_not_mem_cons hj).1

end

/-! ## Notes -/

/-- **One request**: what is written down are the notes of its calls.  By induction on the layers,
each a chain of one filter. -/
theorem notes_serve (fresh : HeaderValue) {stage : Stage σ} (quiet : stage.Notes fun _ _ => [])
    (way : Way ι) : (serve fresh stage way).Notes (calls fresh stage way) := by
  induction way with
  | nil => exact fun r l => quiet r l.unrecorded
  | cons step rest ih =>
    obtain ⟨i, pause⟩ := step
    intro r l
    let arrived : Layers ι σ := l.advance pause.before
    let f := arrived.filters i
    have hdelayed : ((serve fresh stage rest).delayed pause.after).Notes (calls fresh stage rest) :=
      ih
    have hnoted := Filter.notes_serveThrough fresh hdelayed [f] r (arrived.judged i r)
    have hcut : Filter.rejectedAt? (arrived.judged i r).now r [f] = none ↔
        f.admits arrived.now r = true := by
      rw [Filter.rejectedAt?_eq_none_iff]
      exact List.forall_mem_singleton
    -- the rest has its say exactly if the filter admits
    rw [if_congr hcut rfl rfl] at hnoted
    exact hnoted

/-- The scripted stage writes nothing down. -/
theorem notes_play : Backstage.play.Notes fun _ _ => [] := fun _ _ =>
  ⟨(List.append_nil _).symm, (List.append_nil _).symm⟩

/-- **One event**. -/
theorem notes_after (l : Layers ι Backstage) (e : LayerEvent ι) :
    Call.NotedIn (l.callsAt e) l (l.after e) := by
  cases e with
  | visit way v script => exact notes_serve v.fresh notes_play way v.request (l.visited v script)
  | prune layer now => exact ⟨(List.append_nil _).symm, (List.append_nil _).symm⟩

/-- **The run**, by induction on the events. -/
theorem notes_run (l : Layers ι Backstage) (events : List (LayerEvent ι)) :
    (l.run events).2.completions =
        l.completions ++ ((l.run events).1.flatMap Call.timed).map Call.completion ∧
      (l.run events).2.measured = l.measured ++ (l.run events).1.flatMap Call.measurements := by
  induction events generalizing l with
  | nil => exact ⟨(List.append_nil _).symm, (List.append_nil _).symm⟩
  | cons e rest ih =>
    obtain ⟨hcompletions, hmeasured⟩ := l.notes_after e
    obtain ⟨hlast, hlastMeasured⟩ := ih (l.after e)
    rw [hcompletions] at hlast
    rw [hmeasured] at hlastMeasured
    show ((l.after e).run rest).2.completions = l.completions ++
        ((l.callsAt e :: ((l.after e).run rest).1).flatMap Call.timed).map Call.completion ∧
      ((l.after e).run rest).2.measured = l.measured ++
        (l.callsAt e :: ((l.after e).run rest).1).flatMap Call.measurements
    rw [hlast, hlastMeasured, List.flatMap_cons, List.flatMap_cons, List.map_append,
      List.append_assoc, List.append_assoc]
    exact ⟨rfl, rfl⟩

end Layers

/-! ## The way -/

/-- **The way** of a request: calls of the filters of some layers in their order, up to the first
that rejects the request and answers it.  The filters are those of the layers up to traces of
requests. -/
inductive Call.Along {ι : Type} (filters : ι → Filter) : List ι → List Call → Prop
  | through : Along filters [] []
  | on {i : ι} {c : Call} {layers : List ι} {calls : List Call}
      (own : c.filter.asNew = (filters i).asNew)
      (admits : c.filter.admits c.arrived c.request = true) (passed : c.passedOn = true)
      (behind : Along filters layers calls) : Along filters (i :: layers) (c :: calls)
  | cut {i : ι} {c : Call} {layers : List ι} {answer : Response}
      (own : c.filter.asNew = (filters i).asNew)
      (rejects : c.filter.admits c.arrived c.request = false) (kept : c.passedOn = false)
      (answered : c.filter.Rejection c.arrived c.request answer ∧ c.outcome = .answered answer) :
      Along filters (i :: layers) [c]

namespace Layers

variable {ι σ : Type} [DecidableEq ι]

theorem asNew_put (l : Layers ι σ) {i : ι} {f : Filter} (own : f.asNew = (l.filters i).asNew)
    (j : ι) : ((l.put i f).filters j).asNew = (l.filters j).asNew := by
  by_cases hj : j = i
  · rw [hj, filters_put_self, own]
  · rw [l.filters_put_other hj]

theorem asNew_judged (l : Layers ι σ) (i : ι) (r : Request) (j : ι) :
    ((l.judged i r).filters j).asNew = (l.filters j).asNew :=
  l.asNew_put (Filter.asNew_judge l.now r (l.filters i)) j

/-- Serving a request leaves no more than traces in the layers. -/
theorem asNew_serve (fresh : HeaderValue) (stage : Stage σ) (way : Way ι) (r : Request)
    (l : Layers ι σ) (j : ι) :
    (filters (serve fresh stage way r l).2 j).asNew = (l.filters j).asNew := by
  induction way generalizing r l with
  | nil => rfl
  | cons step rest ih =>
    obtain ⟨i, pause⟩ := step
    let arrived : Layers ι σ := l.advance pause.before
    have hjudged : ((arrived.judged i r).filters j).asNew = (l.filters j).asNew :=
      asNew_judged arrived i r j
    cases hadmits : (l.filters i).admits (l.now + pause.before) r with
    | true =>
      rw [filters_serve_cons_of_admits fresh stage pause hadmits rest, ih]
      exact hjudged
    | false =>
      obtain ⟨answer, -, hjudge⟩ := Filter.judge_of_rejects hadmits
      rw [serve_cons_of_rejects fresh stage pause hjudge rest]
      exact hjudged

theorem asNew_after (l : Layers ι Backstage) (e : LayerEvent ι) (j : ι) :
    ((l.after e).filters j).asNew = (l.filters j).asNew := by
  cases e with
  | visit way v script => exact asNew_serve v.fresh Backstage.play way v.request _ j
  | prune layer now =>
    refine l.asNew_put ?_ j
    cases l.filters layer <;> rfl

/-- **One request** makes its calls along the layers of the service.  By induction on them. -/
theorem along_calls (fresh : HeaderValue) (stage : Stage σ) {set : ι → Filter} (way : Way ι)
    (r : Request) {l : Layers ι σ} (own : ∀ j, (l.filters j).asNew = (set j).asNew) :
    Call.Along set way.layers (calls fresh stage way r l) := by
  induction way generalizing r l with
  | nil => exact .through
  | cons step rest ih =>
    obtain ⟨i, pause⟩ := step
    let arrived : Layers ι σ := l.advance pause.before
    rw [calls_cons]
    cases hadmits : (arrived.filters i).admits arrived.now r with
    | true =>
      have hjudged : ∀ j, ((arrived.judged i r).filters j).asNew = (set j).asNew := fun j =>
        (asNew_judged arrived i r j).trans (own j)
      exact .on (own i) hadmits rfl (ih _ hjudged)
    | false =>
      obtain ⟨answer, hrejection, hjudge⟩ := Filter.judge_of_rejects hadmits
      have hserved := serve_cons_of_rejects fresh stage pause hjudge rest
      exact .cut (own i) hadmits rfl ⟨hrejection, congrArg (·.1) hserved⟩

/-- All calls have the status of what came of the request. -/
theorem status?_of_mem_calls (fresh : HeaderValue) (stage : Stage σ) (way : Way ι) (r : Request)
    (l : Layers ι σ) {c : Call} (hc : c ∈ calls fresh stage way r l) :
    c.outcome.status? = (serve fresh stage way r l).1.status? := by
  induction way generalizing r l with
  | nil => cases hc
  | cons step rest ih =>
    obtain ⟨i, pause⟩ := step
    let arrived : Layers ι σ := l.advance pause.before
    rw [calls_cons] at hc
    rcases List.mem_cons.mp hc with rfl | hc
    · rfl
    · split at hc
      · rename_i hadmits
        rw [ih _ (arrived.judged i r) hc, serve_cons_of_admits fresh stage pause hadmits rest]
        exact (Filter.status?_handedBack fresh _ r _).symm
      · cases hc

end Layers

/-- Filters that differ in traces only are timing filters together. -/
theorem Filter.eq_timing_iff_of_asNew_eq {f g : Filter} (h : f.asNew = g.asNew) :
    f = timing ↔ g = timing := by
  have hnew : ∀ f : Filter, f.asNew = timing ↔ f = timing := by
    intro f
    cases f <;> simp [asNew]
  rw [← hnew f, h, hnew g]

theorem Call.length_timed (calls : List Call) :
    (timed calls).length = calls.countP fun c => c.filter = .timing := by
  unfold timed
  rw [List.length_reverse, List.countP_eq_length_filter]

/-- The timed calls are those to timing filters among the layers that the request came to. -/
theorem Call.Along.length_timed {ι : Type} {filters : ι → Filter} {layers : List ι}
    {calls : List Call} (along : Along filters layers calls) :
    (timed calls).length = (layers.take calls.length).countP fun i => filters i = .timing := by
  rw [Call.length_timed]
  induction along with
  | through => rfl
  | on own admits passed behind ih =>
    rw [List.length_cons, List.take_succ_cons, List.countP_cons, List.countP_cons, ih,
      decide_eq_decide.mpr (Filter.eq_timing_iff_of_asNew_eq own)]
  | cut own rejects kept answered =>
    rw [List.length_singleton, List.take_succ_cons, List.take_zero, List.countP_singleton,
      List.countP_singleton, decide_eq_decide.mpr (Filter.eq_timing_iff_of_asNew_eq own)]

/-! ## Nested -/

/-- A stage in which the clock does not go back. -/
def Stage.Forward {σ : Type} (stage : Stage σ) : Prop := ∀ r s, s.now ≤ (stage r s).2.now

/-- Whether a call begins and ends in a time. -/
def Call.Within (c : Call) (start stop : Nat) : Prop :=
  start ≤ c.arrived ∧ c.arrived ≤ c.returned ∧ c.returned ≤ stop

namespace Layers

variable {ι σ : Type} [DecidableEq ι]

section

variable (fresh : HeaderValue) {stage : Stage σ}

theorem now_le_serve (forward : stage.Forward) (way : Way ι) (r : Request) (l : Layers ι σ) :
    l.now ≤ (serve fresh stage way r l).2.now := by
  induction way generalizing r l with
  | nil => exact forward r l.unrecorded
  | cons step rest ih =>
    obtain ⟨i, pause⟩ := step
    let arrived : Layers ι σ := l.advance pause.before
    cases hadmits : (l.filters i).admits (l.now + pause.before) r with
    | true =>
      let inner := serve fresh stage rest ((l.filters i).passedOn fresh r) (arrived.judged i r)
      calc l.now ≤ arrived.now := Nat.le_add_right _ _
        _ ≤ inner.2.now := ih _ (arrived.judged i r)
        _ ≤ inner.2.now + pause.after := Nat.le_add_right _ _
        _ = _ := (now_serve_cons_of_admits fresh stage pause hadmits rest).symm
    | false =>
      obtain ⟨answer, -, hjudge⟩ := Filter.judge_of_rejects hadmits
      rw [serve_cons_of_rejects fresh stage pause hjudge rest]
      exact Nat.le_add_right _ _

/-- **Nested**: each call begins after those around it and ends before them.  By induction on the
layers. -/
theorem pairwise_calls (forward : stage.Forward) (way : Way ι) (r : Request) (l : Layers ι σ) :
    let calls := calls fresh stage way r l
    (∀ c ∈ calls, c.Within l.now (serve fresh stage way r l).2.now) ∧
      calls.Pairwise fun outer inner => inner.Within outer.arrived outer.returned := by
  induction way generalizing r l with
  | nil => exact ⟨fun c hc => absurd hc List.not_mem_nil, .nil⟩
  | cons step rest ih =>
    obtain ⟨i, pause⟩ := step
    let arrived : Layers ι σ := l.advance pause.before
    let f := arrived.filters i
    have harrived : l.now ≤ arrived.now := Nat.le_add_right _ _
    rw [calls_cons]
    cases hadmits : f.admits arrived.now r with
    | true =>
      let inner := serve fresh stage rest (f.passedOn fresh r) (arrived.judged i r)
      obtain ⟨hwithin, hpairwise⟩ := ih (f.passedOn fresh r) (arrived.judged i r)
      have hinner : arrived.now ≤ inner.2.now :=
        now_le_serve fresh forward rest _ (arrived.judged i r)
      have houter : (serve fresh stage ((i, pause) :: rest) r l).2.now =
          inner.2.now + pause.after := now_serve_cons_of_admits fresh stage pause hadmits rest
      rw [houter, if_pos rfl]
      -- what is inside begins when this call has begun, and ends before the pause at its end
      have hbehind : ∀ c ∈ calls fresh stage rest (f.passedOn fresh r) (arrived.judged i r),
          c.Within arrived.now (inner.2.now + pause.after) := by
        intro c hc
        obtain ⟨hstart, hlasts, hstop⟩ := hwithin c hc
        exact ⟨hstart, hlasts, Nat.le_add_right_of_le hstop⟩
      refine ⟨?_, List.pairwise_cons.mpr ⟨hbehind, hpairwise⟩⟩
      intro c hc
      rcases List.mem_cons.mp hc with rfl | hc
      · exact ⟨harrived, Nat.le_add_right_of_le hinner, Nat.le_refl _⟩
      · obtain ⟨hstart, hlasts, hstop⟩ := hbehind c hc
        exact ⟨Nat.le_trans harrived hstart, hlasts, hstop⟩
    | false =>
      obtain ⟨answer, -, hjudge⟩ := Filter.judge_of_rejects hadmits
      rw [serve_cons_of_rejects fresh stage pause hjudge rest, if_neg Bool.false_ne_true]
      refine ⟨?_, List.pairwise_singleton _ _⟩
      intro c hc
      rw [List.mem_singleton] at hc
      subst hc
      exact ⟨harrived, Nat.le_refl _, Nat.le_refl _⟩

end

/-! ## Runs -/

/-- **A run**: what holds of the calls at each event, given something that no event changes. -/
theorem forall₂_run {Kept : Layers ι Backstage → Prop} {Shown : LayerEvent ι → List Call → Prop}
    (keeps : ∀ l e, Kept l → Kept (l.after e)) (shows : ∀ l e, Kept l → Shown e (l.callsAt e))
    {l : Layers ι Backstage} (kept : Kept l) (events : List (LayerEvent ι)) :
    List.Forall₂ Shown events (l.run events).1 := by
  induction events generalizing l with
  | nil => exact .nil
  | cons e rest ih => exact .cons (shows l e kept) (ih (keeps l e kept))

theorem forward_play : Backstage.play.Forward := fun _ _ => Nat.le_add_right _ _

/-- The calls at an event: along the layers of the service that is asked, with one status, and
nested. -/
theorem callsAt_spec {set : ι → Filter} (l : Layers ι Backstage) (e : LayerEvent ι)
    (own : ∀ i, (l.filters i).asNew = (set i).asNew) :
    let calls := l.callsAt e
    Call.Along set e.layers calls ∧
      (∀ c ∈ calls, ∀ other ∈ calls, c.outcome.status? = other.outcome.status?) ∧
      (∀ c ∈ calls, c.arrived ≤ c.returned) ∧
      calls.Pairwise fun outer inner => inner.Within outer.arrived outer.returned := by
  cases e with
  | visit way v script =>
    let found := l.visited v script
    obtain ⟨hwithin, hpairwise⟩ := pairwise_calls v.fresh forward_play way v.request found
    refine ⟨along_calls v.fresh Backstage.play way v.request own, ?_, ?_, hpairwise⟩
    · intro c hc other hother
      rw [status?_of_mem_calls v.fresh Backstage.play way v.request found hc,
        status?_of_mem_calls v.fresh Backstage.play way v.request found hother]
    · intro c hc
      exact (hwithin c hc).2.1
  | prune layer now =>
    exact ⟨.through, fun c hc => absurd hc List.not_mem_nil,
      fun c hc => absurd hc List.not_mem_nil, .nil⟩

end Layers

end Turnstile

import Turnstile.Filter.Basic
/-!
  What a chain of filters hands on, and what it keeps.

  1. **Handing on** (`passed`) — every filter may change the request for what is behind it, so the
     stage behind a chain gets the request as all of them have changed it, one after the other.

  2. **One call** (`behind_serveThrough`) — the stage is called once, with that request, or not at
     all; whatever filters record, they do not touch what stands behind them.

  3. **As new** (`asNew_serveThrough`) — filters keep state from one request to the next, but only
     within their settings: without the traces of the requests that they have judged, they are what
     they were.

  4. **The record** (`Stage.recording`, `serveThrough_unrecorded`) — every stage can be made to keep
     a record of the requests that reach it, and a chain in front of it serves the same with a
     record and without.
-/

namespace Turnstile

/-- A request that has got its name. -/
def Request.named (fresh : HeaderValue) (r : Request) : Request :=
  { r with headers :=
      Headers.insert r.headers Filter.requestIdName (Filter.requestIdFor fresh r.headers) }

/-! ## Without traces -/

/-- The bucket without the traces of calls: full, and with its first interval at the beginning. -/
def Bucket.asNew (b : Bucket) : Bucket :=
  ⟨b.capacity, b.capacity, match b.refill with
    | .never => .never
    | .every amount interval _ => .every amount interval 0⟩

@[simp] theorem Bucket.asNew_credit (b : Bucket) (now : Nat) : (b.credit now).asNew = b.asNew := by
  unfold credit
  cases hrefill : b.refill with
  | never => rfl
  | every amount interval since =>
    dsimp only
    split
    · simp [asNew, hrefill]
    · rfl

@[simp] theorem Bucket.asNew_take (b : Bucket) (now : Nat) : (b.take now).2.asNew = b.asNew := by
  rw [← b.asNew_credit now]
  unfold take
  dsimp only
  split <;> rfl

/-- The gate without the traces of requests. -/
def RateGate.asNew (g : RateGate) : RateGate :=
  { g with limiter := { g.limiter with arrivals := [] } }

@[simp] theorem RateGate.asNew_check (g : RateGate) (now : Nat) (r : Request) :
    (g.check now r).2.asNew = g.asNew := by
  unfold check Limiter.check
  dsimp only
  split <;> rfl

@[simp] theorem RateGate.asNew_prune (g : RateGate) (now : Nat) :
    (g.prune now).asNew = g.asNew := rfl

namespace Filter

/-- The filter without the traces of requests. -/
def asNew : Filter → Filter
  | throttle route bucket => throttle route bucket.asNew
  | rateGate gate => rateGate gate.asNew
  | timing => timing
  | host glob => host glob
  | requestId => requestId

theorem asNew_eq_requestId_iff (f : Filter) : f.asNew = requestId ↔ f = requestId := by
  cases f <;> simp [asNew]

/-- **A step**: judging a request leaves no more than traces. -/
theorem asNew_judge (now : Nat) (r : Request) (f : Filter) :
    (f.judge now r).2.1.asNew = f.asNew := by
  cases f with
  | throttle route bucket =>
    have htake := bucket.asNew_take now
    simp only [judge]
    cases hbucket : bucket.take now with
    | mk taken bucket' =>
      rw [hbucket] at htake
      cases taken <;> exact congrArg (throttle route) htake
  | rateGate gate =>
    have hcheck := gate.asNew_check now r
    simp only [judge]
    cases hgate : gate.check now r with
    | mk verdict gate' =>
      rw [hgate] at hcheck
      cases verdict <;> exact congrArg rateGate hcheck
  | timing => rfl
  | host glob =>
    simp only [judge]
    cases r.host? with
    | none => rfl
    | some asked => cases hasked : glob.accepts asked <;> simp [hasked]
  | requestId => rfl

/-! ## Chains -/

/-- The request that comes out behind some filters. -/
def passed (fresh : HeaderValue) (filters : List Filter) (r : Request) : Request :=
  filters.foldl (fun r f => f.passedOn fresh r) r

/-- Without a filter that names requests, a request comes out as it went in. -/
theorem passed_of_not_mem {fresh : HeaderValue} {filters : List Filter}
    (h : requestId ∉ filters) (r : Request) : passed fresh filters r = r := by
  induction filters generalizing r with
  | nil => rfl
  | cons f rest ih =>
    rw [List.mem_cons, not_or] at h
    have hf : f.passedOn fresh r = r := by
      cases f with
      | requestId => exact absurd rfl h.1
      | _ => rfl
    show passed fresh rest (f.passedOn fresh r) = r
    rw [hf, ih h.2]

section

variable {σ : Type} (fresh : HeaderValue) (stage : Stage σ)

theorem behind_recorded (f : Filter) (r : Request) (start : Nat) (o : Outcome) (s : Scene σ) :
    (f.recorded r start o s).behind = s.behind := by
  cases f <;> rfl

/-- **One call**: what stands behind a chain is left alone, or called once with the request that
comes out behind the filters. -/
theorem behind_serveThrough (filters : List Filter) (r : Request) (s : Scene σ) :
    (serveThrough fresh stage filters r s).2.2.behind = s.behind ∨
      ∃ s₀ : Scene σ, s₀.behind = s.behind ∧
        (serveThrough fresh stage filters r s).2.2.behind =
          (stage (passed fresh filters r) s₀).2.behind := by
  induction filters generalizing r s with
  | nil => exact .inr ⟨s, rfl, rfl⟩
  | cons f rest ih =>
    rw [serveThrough]
    match f.judge s.now r with
    | (some answer, f', events) => exact .inl rfl
    | (none, f', events) =>
      -- measuring and recording happen in front of the stage
      dsimp only
      rw [behind_recorded]
      exact ih (f.passedOn fresh r) (s.measure events)

/-- **A run**: serving a request leaves no more than traces in a chain. -/
theorem asNew_serveThrough (filters : List Filter) (r : Request) (s : Scene σ) :
    (serveThrough fresh stage filters r s).2.1.map asNew = filters.map asNew := by
  induction filters generalizing r s with
  | nil => rfl
  | cons f rest ih =>
    have hjudge := asNew_judge s.now r f
    rw [serveThrough]
    match hf : f.judge s.now r with
    | (some answer, f', events) =>
      rw [hf] at hjudge
      exact congrArg (· :: rest.map asNew) hjudge
    | (none, f', events) =>
      rw [hf] at hjudge
      dsimp only
      rw [List.map_cons, List.map_cons, hjudge, ih]

end

theorem asNew_pruneFirst (now : Nat) (filters : List Filter) :
    (pruneFirst now filters).map asNew = filters.map asNew := by
  induction filters with
  | nil => rfl
  | cons f rest ih =>
    cases f with
    | rateGate gate => exact congrArg (rateGate · :: rest.map asNew) (gate.asNew_prune now)
    | _ => exact congrArg (_ :: ·) ih

/-- Filters that differ in traces only name requests alike. -/
theorem requestId_mem_of_asNew_eq {filters filters' : List Filter}
    (h : filters.map asNew = filters'.map asNew) (hmem : requestId ∈ filters) :
    requestId ∈ filters' := by
  have hnew : requestId ∈ filters'.map asNew := by
    rw [← h]
    exact List.mem_map.mpr ⟨requestId, hmem, rfl⟩
  obtain ⟨f, hf, heq⟩ := List.mem_map.mp hnew
  rw [asNew_eq_requestId_iff] at heq
  exact heq ▸ hf

end Filter

/-! ## Keeping a record -/

/-- The scene without the record. -/
def Scene.unrecorded {α σ : Type} (s : Scene (α × σ)) : Scene σ := { s with behind := s.behind.2 }

/-- A stage that does behind a record what another one does without. -/
def Stage.Unrecorded {α σ : Type} (stage : Stage (α × σ)) (plain : Stage σ) : Prop :=
  ∀ r s, plain r s.unrecorded = ((stage r s).1, (stage r s).2.unrecorded)

/-- A stage that keeps a record of the requests that reach it, in front of what it is made from. -/
def Stage.recording {σ : Type} (stage : Stage σ) : Stage (List Request × σ) := fun r s =>
  let (o, after) := stage r s.unrecorded
  (o, { after with behind := (s.behind.1 ++ [r], after.behind) })

theorem Stage.recording_unrecorded {σ : Type} (stage : Stage σ) :
    Stage.Unrecorded stage.recording stage := fun _ _ => rfl

/-- **A record changes nothing** in front of the stage that keeps it. -/
theorem Filter.serveThrough_unrecorded {α σ : Type} {stage : Stage (α × σ)} {plain : Stage σ}
    (h : Stage.Unrecorded stage plain) (fresh : HeaderValue) (filters : List Filter) (r : Request)
    (s : Scene (α × σ)) :
    serveThrough fresh plain filters r s.unrecorded =
      ((serveThrough fresh stage filters r s).1, (serveThrough fresh stage filters r s).2.1,
        (serveThrough fresh stage filters r s).2.2.unrecorded) := by
  induction filters generalizing r s with
  | nil =>
    rw [serveThrough, h]
    rfl
  | cons f rest ih =>
    have hnow : s.unrecorded.now = s.now := rfl
    rw [serveThrough, serveThrough, hnow]
    rcases f.judge s.now r with ⟨answer, f', events⟩
    cases answer with
    | some a => rfl
    | none =>
      have hmeasure : s.unrecorded.measure events = (s.measure events).unrecorded := rfl
      dsimp only
      rw [hmeasure, ih]
      cases f <;> rfl

end Turnstile

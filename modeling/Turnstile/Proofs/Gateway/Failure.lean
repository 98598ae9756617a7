import Turnstile.Proofs.Gateway.Checked
/-!
  Setups that fail, and what they leave behind.

  The timer that prunes the keyed limiter is started in the middle of the setup, as soon as there is
  a limiter.  Steps that come after it can still fail.

  1. **Ends** (`Build.Ends`) — what a setup comes to, and which timers it starts on the way, does
     not depend on what has been done before.  Both are read off the steps, up to the first that
     fails.

  2. **Problems** (`earlyProblem?`, `lateProblem?`) — the first thing that cannot be set up, among
     those before the timer and among those after it.  Only three URLs are read for six
     destinations, so a destination whose URL has been read before is no problem any more.

  3. **Crux** (`build_of_earlyProblem?`, `build_of_lateProblem?`) — the setup fails with its first
     problem, early or late, and has started the timer unless the problem is an early one.

  4. **Headline** (`pruning_of_failure`) — nothing has been started by a setup that failed exactly
     if its problem was an early one, or no pruning was asked for.  A late problem leaves the timer
     running (`pruning_of_bad_timing`).
-/

namespace Turnstile

/-- Only the text of the URL decides whether there is a destination. -/
theorem Destination.create_of_parse {url : String} {base : Url} (h : Url.parse url = .ok base)
    (name : String) (strip : Nat) : create name url strip = .ok ⟨name, base, strip, []⟩ := by
  unfold create
  rw [h]
  rfl

/-! ## Ends -/

namespace Build

/-- **Ends**: from every journal `b` comes to `result`, and starts timers with the intervals
`started`. -/
def Ends {α : Type} (b : Build α) (result : Except BuildProblem α) (started : List Nat) : Prop :=
  ∀ j : Journal, (b.run j).1 = result ∧ (b.run j).2.pruning = j.pruning ++ started

section

variable {α β : Type} {x : Build α} {f : α → Build β} {a : α} {e : BuildProblem}
  {result : Except BuildProblem β} {before started : List Nat}

/-- **A step, and the rest**, which starts its timers after those of the step. -/
theorem Ends.bind (hx : Ends x (.ok a) before) (hf : Ends (f a) result started) :
    Ends (x >>= f) result (before ++ started) := by
  intro j
  obtain ⟨hresult, hpruning⟩ := hx j
  rw [run_bind]
  cases hrun : x.run j with
  | mk r between =>
    rw [hrun] at hresult hpruning
    dsimp only at hresult hpruning
    subst hresult
    obtain ⟨hlater, hstarted⟩ := hf between
    refine ⟨hlater, ?_⟩
    show ((f a).run between).2.pruning = _
    rw [hstarted, hpruning, List.append_assoc]

/-- A step that starts nothing. -/
theorem Ends.step (hx : Ends x (.ok a) []) (hf : Ends (f a) result started) :
    Ends (x >>= f) result started :=
  hx.bind hf

/-- A step that fails: nothing comes after it. -/
theorem Ends.failed (hx : Ends x (.error e) started) : Ends (x >>= f) (.error e) started := by
  intro j
  obtain ⟨hresult, hpruning⟩ := hx j
  rw [run_bind]
  cases hrun : x.run j with
  | mk r after =>
    rw [hrun] at hresult hpruning
    dsimp only at hresult hpruning
    subst hresult
    exact ⟨rfl, hpruning⟩

theorem Ends.pure (a : α) : Ends (pure a : Build α) (.ok a) [] :=
  fun j => ⟨rfl, (List.append_nil j.pruning).symm⟩

theorem Ends.throw (e : BuildProblem) : Ends (throw e : Build α) (.error e) [] :=
  fun j => ⟨rfl, (List.append_nil j.pruning).symm⟩

end

/-- A line in the log starts nothing. -/
theorem Ends.log (level : LogLevel) (target message : String) (fields : List (String × LogValue)) :
    Ends (log level target message fields) (.ok ()) [] :=
  fun j => ⟨rfl, (List.append_nil j.pruning).symm⟩

theorem Ends.ofExcept {ε α : Type} {problem : ε → BuildProblem} {x : Except ε α} {a : α}
    (h : x = .ok a) : Ends (ofExcept problem x) (.ok a) [] := by
  rw [h]
  exact .pure a

theorem Ends.ofError {ε α : Type} {problem : ε → BuildProblem} {x : Except ε α} {e : ε}
    (h : x = .error e) : Ends (Build.ofExcept problem x) (.error (problem e)) [] := by
  rw [h]
  exact .throw _

/-- A step for each of some values. -/
theorem Ends.forIn {α : Type} {f : α → Build Unit} (h : ∀ a, Ends (f a) (.ok ()) [])
    (xs : List α) :
    Ends (forIn xs () fun a _ => do f a; Pure.pure (ForInStep.yield ())) (.ok ()) [] := by
  induction xs with
  | nil => exact .pure ()
  | cons x xs ih =>
    rw [List.forIn_cons]
    exact Ends.step (Ends.step (h x) (.pure (ForInStep.yield ()))) ih

theorem Ends.throttle {route path : String} {s : ThrottleSettings} {now : Nat} {b : Bucket}
    (h : Bucket.create s now = .ok b) :
    Ends (throttle route path s now) (.ok (.throttle route b)) [] :=
  Ends.step (.ofExcept h) (Ends.step (.log _ _ _ _) (.pure _))

theorem Ends.throttle_failed {route path : String} {s : ThrottleSettings} {now : Nat}
    {e : ThrottleError} (h : Bucket.create s now = .error e) :
    Ends (Build.throttle route path s now) (.error (.badThrottle path e)) [] :=
  Ends.failed (.ofError h)

theorem Ends.destination {name url : String} {strip : Nat} {base : Url}
    (h : Url.parse url = .ok base) :
    Ends (destination name url strip) (.ok ⟨name, base, strip, []⟩) [] :=
  .ofExcept (Destination.create_of_parse h name strip)

theorem Ends.destination_failed {name url : String} {strip : Nat} {e : UrlError}
    (h : Url.parse url = .error e) :
    Ends (Build.destination name url strip) (.error (.badDestination name e)) [] := by
  have hcreate : Destination.create name url strip = .error e := by
    unfold Destination.create
    rw [h]
    rfl
  exact .ofError hcreate

theorem Ends.rateGate_failed {s : Settings} {proxies : TrustedProxies} {now : Nat}
    {e : RateLimitError} (h : RateGate.create s.rate s.burst s.keyRule proxies now = .error e) :
    Ends (Build.rateGate s proxies now) (.error (.badRateLimit e)) [] :=
  Ends.failed (.ofError h)

theorem Ends.trustedProxies (texts : List String) :
    Ends (trustedProxies texts) (.ok (.ofTexts texts)) [] := by
  refine Ends.step (Ends.forIn (fun text => .log _ _ _ _) _) ?_
  dsimp only
  split
  · exact Ends.step (.log _ _ _ _) (.pure _)
  · exact .pure _

theorem Ends.rateGate {s : Settings} {proxies : TrustedProxies} {now : Nat} {gate : RateGate}
    (h : RateGate.create s.rate s.burst s.keyRule proxies now = .ok gate) :
    Ends (Build.rateGate s proxies now) (.ok (.rateGate gate)) [] :=
  Ends.step (.ofExcept h) (Ends.step (.log _ _ _ _) (.pure _))

/-- **The timer**: an interval of zero stands for none. -/
theorem Ends.startPruning (interval : Nat) :
    Ends (startPruning interval) (.ok ()) (if interval = 0 then [] else [interval]) := by
  intro j
  unfold Build.startPruning
  by_cases hzero : interval = 0
  · rw [if_pos hzero, if_pos hzero]
    exact Ends.log _ _ _ _ j
  · rw [if_neg hzero, if_neg hzero]
    exact ⟨rfl, rfl⟩

end Build

namespace Gateway

/-! ## Problems -/

/-- What keeps something from being set up. -/
def problem? {ε α : Type} (problem : ε → BuildProblem) : Except ε α → Option BuildProblem
  | .ok _ => none
  | .error e => some (problem e)

/-- The first thing before the timer that cannot be set up: the name, the throttle, the destination
or the keyed limiter. -/
def earlyProblem? (s : Settings) (now : Nat) : Option BuildProblem :=
  [if (HeaderValue.ofString? s.gatewayName).isSome then none else some .badName,
    problem? (.badThrottle "/api") (Bucket.create s.throttle now),
    problem? (.badDestination "api") (Url.parse s.mainUrl),
    problem? .badRateLimit
      (RateGate.create s.rate s.burst s.keyRule (.ofTexts s.trustedProxies) now)].findSome? id

/-- The first thing after the timer that cannot be set up: one of the two other destinations. -/
def lateProblem? (s : Settings) : Option BuildProblem :=
  [problem? (.badDestination "timing") (Url.parse s.timingUrl),
    problem? (.badDestination "anything_png") (Url.parse s.demoUrl)].findSome? id

/-- The timers that are asked for. -/
def timers (s : Settings) : List Nat := if s.pruneInterval = 0 then [] else [s.pruneInterval]

theorem timers_eq_nil_iff (s : Settings) : timers s = [] ↔ s.pruneInterval = 0 := by
  unfold timers
  split <;> simp_all

/-- Without an early problem, everything before the timer can be set up. -/
theorem exists_of_earlyProblem?_eq_none {s : Settings} {now : Nat}
    (h : earlyProblem? s now = none) :
    ∃ stamp bucket base gate, HeaderValue.ofString? s.gatewayName = some stamp ∧
      Bucket.create s.throttle now = .ok bucket ∧ Url.parse s.mainUrl = .ok base ∧
      RateGate.create s.rate s.burst s.keyRule (.ofTexts s.trustedProxies) now = .ok gate := by
  unfold earlyProblem? at h
  cases hname : HeaderValue.ofString? s.gatewayName with
  | none =>
    rw [hname] at h
    cases h
  | some stamp =>
  cases hthrottle : Bucket.create s.throttle now with
  | error e =>
    rw [hname, hthrottle] at h
    cases h
  | ok bucket =>
  cases hmain : Url.parse s.mainUrl with
  | error e =>
    rw [hname, hthrottle, hmain] at h
    cases h
  | ok base =>
  cases hgate : RateGate.create s.rate s.burst s.keyRule (.ofTexts s.trustedProxies) now with
  | error e =>
    rw [hname, hthrottle, hmain, hgate] at h
    cases h
  | ok gate => exact ⟨stamp, bucket, base, gate, rfl, rfl, rfl, rfl⟩

/-! ## Crux -/

/-- **Early**: the setup fails before it comes to the timer. -/
theorem build_of_earlyProblem? {s : Settings} {now : Nat} {e : BuildProblem}
    (h : earlyProblem? s now = some e) : (build s now).Ends (.error e) [] := by
  unfold earlyProblem? at h
  unfold build
  cases hname : HeaderValue.ofString? s.gatewayName with
  | none =>
    rw [hname] at h
    cases h
    exact (Build.Ends.throw _).failed
  | some stamp =>
  refine Build.Ends.step (.pure stamp) ?_
  cases hthrottle : Bucket.create s.throttle now with
  | error error =>
    rw [hname, hthrottle] at h
    cases h
    exact (Build.Ends.throttle_failed hthrottle).failed
  | ok bucket =>
  refine Build.Ends.step (.throttle hthrottle) ?_
  refine Build.Ends.step (.log _ _ _ _) ?_
  cases hmain : Url.parse s.mainUrl with
  | error error =>
    rw [hname, hthrottle, hmain] at h
    cases h
    exact (Build.Ends.destination_failed hmain).failed
  | ok base =>
  refine Build.Ends.step (.destination hmain) ?_
  refine Build.Ends.step (.trustedProxies _) ?_
  cases hgate : RateGate.create s.rate s.burst s.keyRule (.ofTexts s.trustedProxies) now with
  | error error =>
    rw [hname, hthrottle, hmain, hgate] at h
    cases h
    exact (Build.Ends.rateGate_failed hgate).failed
  | ok gate =>
    rw [hname, hthrottle, hmain, hgate] at h
    cases h

/-- **Late**: the setup fails when it has started the timer. -/
theorem build_of_lateProblem? {s : Settings} {now : Nat} {e : BuildProblem}
    (hearly : earlyProblem? s now = none) (h : lateProblem? s = some e) :
    (build s now).Ends (.error e) (timers s) := by
  obtain ⟨stamp, bucket, base, gate, hname, hthrottle, hmain, hgate⟩ :=
    exists_of_earlyProblem?_eq_none hearly
  have honly : timers s = timers s ++ [] := (List.append_nil _).symm
  unfold build
  rw [hname, honly]
  refine Build.Ends.step (.pure stamp) ?_
  refine Build.Ends.step (.throttle hthrottle) ?_
  refine Build.Ends.step (.log _ _ _ _) ?_
  refine Build.Ends.step (.destination hmain) ?_
  refine Build.Ends.step (.trustedProxies _) ?_
  refine Build.Ends.step (.rateGate hgate) ?_
  refine Build.Ends.bind (.startPruning _) ?_
  refine Build.Ends.step (.log _ _ _ _) ?_
  -- the main URL has been read before
  refine Build.Ends.step (.destination hmain) ?_
  unfold lateProblem? at h
  cases htiming : Url.parse s.timingUrl with
  | error error =>
    rw [htiming] at h
    cases h
    exact (Build.Ends.destination_failed htiming).failed
  | ok timing =>
  refine Build.Ends.step (.destination htiming) ?_
  cases hdemo : Url.parse s.demoUrl with
  | error error =>
    rw [htiming, hdemo] at h
    cases h
    exact (Build.Ends.destination_failed hdemo).failed
  | ok demo =>
    rw [htiming, hdemo] at h
    cases h

/-- Without any problem, there is a gateway. -/
theorem build_of_no_problem {s : Settings} {now : Nat} (hearly : earlyProblem? s now = none)
    (hlate : lateProblem? s = none) : ∃ p : Parts s now, (build s now).Surely p.gateway := by
  obtain ⟨stamp, bucket, base, gate, hname, hthrottle, hmain, hgate⟩ :=
    exists_of_earlyProblem?_eq_none hearly
  obtain ⟨getBucket, hgetBucket⟩ := Bucket.exists_create Parts.standard.getBucket_eq now
  unfold lateProblem? at hlate
  cases htiming : Url.parse s.timingUrl with
  | error e =>
    rw [htiming] at hlate
    cases hlate
  | ok timing =>
  cases hdemo : Url.parse s.demoUrl with
  | error e =>
    rw [htiming, hdemo] at hlate
    cases hlate
  | ok demo =>
    let p : Parts s now :=
      { stamp, apiBucket := bucket, gate, getBucket
        api := ⟨"api", base, 1, []⟩
        rate := ⟨"rate", base, 2, []⟩
        timing := ⟨"timing", timing, 1, []⟩
        png := ⟨"anything_png", demo, 0, []⟩
        webp := ⟨"image_webp", demo, 0, []⟩
        get := ⟨"throttle_get", demo, 0, []⟩
        stamp_eq := hname
        apiBucket_eq := hthrottle
        gate_eq := hgate
        getBucket_eq := hgetBucket
        api_eq := Destination.create_of_parse hmain _ _
        rate_eq := Destination.create_of_parse hmain _ _
        timing_eq := Destination.create_of_parse htiming _ _
        png_eq := Destination.create_of_parse hdemo _ _
        webp_eq := Destination.create_of_parse hdemo _ _
        get_eq := Destination.create_of_parse hdemo _ _ }
    exact ⟨p, build_surely p⟩

/-! ## Headline -/

/-- **Headline.**  A setup that fails has failed with its first problem.  The timer has been started
unless that is an early one; so nothing has been started exactly if the problem is an early one, or
no timer was asked for. -/
theorem pruning_of_failure {s : Settings} {now : Nat} {j after : Journal} {e : BuildProblem}
    (failed : (build s now).run j = (.error e, after)) :
    (earlyProblem? s now).or (lateProblem? s) = some e ∧
    after.pruning = j.pruning ++ (if earlyProblem? s now = some e then [] else timers s) ∧
    (after.pruning = j.pruning ↔ earlyProblem? s now = some e ∨ s.pruneInterval = 0) := by
  have hends : ∀ {e' : BuildProblem} {started : List Nat}, (build s now).Ends (.error e') started →
      e' = e ∧ after.pruning = j.pruning ++ started := by
    intro e' started h
    obtain ⟨hresult, hpruning⟩ := h j
    rw [failed] at hresult hpruning
    exact ⟨(Except.error.inj hresult).symm, hpruning⟩
  cases hearly : earlyProblem? s now with
  | some e' =>
    obtain ⟨rfl, hpruning⟩ := hends (build_of_earlyProblem? hearly)
    rw [List.append_nil] at hpruning
    simp [hpruning]
  | none =>
    cases hlate : lateProblem? s with
    | some e' =>
      obtain ⟨rfl, hpruning⟩ := hends (build_of_lateProblem? hearly hlate)
      simp [hpruning, timers_eq_nil_iff]
    | none =>
      obtain ⟨p, hsurely⟩ := build_of_no_problem hearly hlate
      obtain ⟨_, hrun⟩ := hsurely j
      rw [failed] at hrun
      cases hrun

/-- Two problems: the rate comes first, so the timer is not started; and if the rate is sound, the
demo URL comes when it has been. -/
theorem pruning_of_failure_of_two :
    let s : Settings := { Settings.standard with rate := 0, demoUrl := "//example" }
    (∃ j after : Journal, (build s 7).run j = (.error (.badRateLimit .zeroRate), after) ∧
      j.pruning = [3] ∧ after.pruning = [3]) ∧
    ∃ j after : Journal, (build { s with rate := 1 } 7).run j =
        (.error (.badDestination "anything_png" .relative), after) ∧
      j.pruning = [3] ∧ after.pruning = [3, 60 * Duration.second] := by
  intro s
  have hrate : earlyProblem? s 7 = some (.badRateLimit .zeroRate) := by decide +kernel
  have hsound : earlyProblem? { s with rate := 1 } 7 = none := by decide +kernel
  have hdemo : lateProblem? { s with rate := 1 } =
      some (.badDestination "anything_png" .relative) := by decide +kernel
  obtain ⟨hearly, -⟩ := build_of_earlyProblem? hrate ⟨[], [3]⟩
  obtain ⟨hlate, -⟩ := build_of_lateProblem? hsound hdemo ⟨[], [3]⟩
  refine ⟨⟨⟨[], [3]⟩, _, Prod.ext hearly rfl, rfl, ?_⟩, ⟨[], [3]⟩, _, Prod.ext hlate rfl, rfl, ?_⟩
  · have hstarted := (pruning_of_failure (Prod.ext hearly rfl)).2.1
    rw [if_pos hrate] at hstarted
    exact hstarted
  · have hstarted := (pruning_of_failure (Prod.ext hlate rfl)).2.1
    rw [if_neg (by rw [hsound]; exact nofun)] at hstarted
    exact hstarted

/-- **A late problem leaves the timer running**: the timed destination has no URL, and the setup has
failed when it comes to it, but the limiter that it has given up is still pruned once a minute. -/
theorem pruning_of_bad_timing :
    let s : Settings := { Settings.standard with timingUrl := "example" }
    ∃ after, (build s 0).run ⟨[], []⟩ = (.error (.badDestination "timing" .relative), after) ∧
      after.pruning = [60 * Duration.second] ∧ after.pruning ≠ [] := by
  intro s
  have hearly : earlyProblem? s 0 = none := by decide +kernel
  have hlate : lateProblem? s = some (.badDestination "timing" .relative) := by decide +kernel
  obtain ⟨hresult, hpruning⟩ := build_of_lateProblem? hearly hlate ⟨[], []⟩
  have hstarted : timers s = [60 * Duration.second] := by decide
  rw [hstarted, List.nil_append] at hpruning
  exact ⟨_, Prod.ext hresult rfl, hpruning, by rw [hpruning]; exact List.cons_ne_nil _ _⟩

end Gateway

end Turnstile

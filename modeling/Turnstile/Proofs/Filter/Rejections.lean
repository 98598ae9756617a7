import Turnstile.Proofs.Filter.Layers
/-!
  What the counters of rejections say.

  1. **Specification** — of some calls, how many came to filters of a kind (`entered`), and how many
     of these were passed on (`letOn`).  The kinds are the throttles of a route and the gates that
     count by a rule.

  2. **Counters** (`isRejection`) — the events that count rejections, of which a total is the
     number.

  3. **The balance** (`count_measurements`) — each call of a kind is passed on or counted, once; and
     no other call is counted in the series of the kind.  By induction on the calls, and on the
     requests of the run.

  4. **Headline** (`rejections_of_run`).
-/

namespace Turnstile

/-! ## Specification -/

/-- Whether a filter throttles a route. -/
def Filter.isThrottleOf (route : String) : Filter → Bool
  | throttle own _ => own == route
  | _ => false

/-- Whether a filter is a gate that counts by the named rule. -/
def Filter.isGateOf (rule : String) : Filter → Bool
  | rateGate gate => gate.rule.name == rule
  | _ => false

namespace Call

/-- How many calls came to filters of a kind. -/
def entered (kind : Filter → Bool) (calls : List Call) : Nat :=
  calls.countP fun c => kind c.filter

/-- How many calls filters of a kind passed on. -/
def letOn (kind : Filter → Bool) (calls : List Call) : Nat :=
  calls.countP fun c => kind c.filter && c.passedOn

end Call

/-! ## Counters -/

namespace Measurement

/-- Whether an event is one of a counter of rejections. -/
def isRejection : Measurement → Bool
  | throttled _ => true
  | rateLimited _ => true
  | _ => false

/-- A counter of rejections is a counter. -/
theorem elapsed?_of_isRejection {m : Measurement} (hm : m.isRejection = true) :
    m.elapsed? = none := by
  cases m with
  | throttled route => rfl
  | rateLimited rule => rfl
  | destinationFailed kind => cases hm
  | finished method status elapsed => cases hm

end Measurement

/-! ## The balance -/

namespace Call

theorem letOn_le_entered (kind : Filter → Bool) (calls : List Call) :
    letOn kind calls ≤ entered kind calls :=
  List.countP_mono_left fun _ _ h => (Bool.and_eq_true _ _ ▸ h).1

section

variable {kind : Filter → Bool} {m : Measurement}

/-- **One call**: it is counted if it came to a filter of the kind and was not passed on. -/
theorem count_rejection?_add (counted : ∀ f, kind f = true ↔ f.rejection? = some m) (c : Call) :
    c.rejection?.toList.count m + letOn kind [c] = entered kind [c] := by
  unfold letOn entered rejection?
  rw [List.countP_singleton, List.countP_singleton]
  cases c.passedOn with
  | true =>
    rw [if_pos rfl, Bool.and_true]
    exact Nat.zero_add _
  | false =>
    rw [if_neg Bool.false_ne_true, Bool.and_false]
    cases hkind : kind c.filter with
    | true =>
      rw [(counted c.filter).mp hkind]
      simp
    | false =>
      have hother : c.filter.rejection? ≠ some m := by
        rw [ne_eq, ← counted, hkind]
        exact Bool.false_ne_true
      cases hrejection : c.filter.rejection? with
      | none => rfl
      | some other =>
        have hdiffers : other ≠ m := fun heq => hother (hrejection.trans (congrArg some heq))
        simp [hdiffers]

theorem count_filterMap_add (counted : ∀ f, kind f = true ↔ f.rejection? = some m)
    (calls : List Call) :
    (calls.filterMap rejection?).count m + letOn kind calls = entered kind calls := by
  induction calls with
  | nil => rfl
  | cons c rest ih =>
    have hone := count_rejection?_add counted c
    have hmap : (c :: rest).filterMap rejection? =
        c.rejection?.toList ++ rest.filterMap rejection? := by
      rw [List.filterMap_cons]
      cases c.rejection? <;> rfl
    have hletOn : letOn kind ([c] ++ rest) = letOn kind [c] + letOn kind rest := List.countP_append
    have hentered : entered kind ([c] ++ rest) = entered kind [c] + entered kind rest :=
      List.countP_append
    rw [List.singleton_append] at hletOn hentered
    rw [hmap, List.count_append, hletOn, hentered]
    omega

/-- A report is no rejection. -/
theorem count_reports (hm : m.isRejection = true) (calls : List Call) :
    ((timed calls).map fun c => c.completion.measurement).count m = 0 := by
  rw [List.count_eq_zero, List.mem_map]
  rintro ⟨c, -, rfl⟩
  cases hm

/-- **The balance** of a run: what is measured besides are reports. -/
theorem count_measurements (hm : m.isRejection = true)
    (counted : ∀ f, kind f = true ↔ f.rejection? = some m) (visits : List (List Call)) :
    (visits.flatMap measurements).count m + letOn kind visits.flatten =
      entered kind visits.flatten := by
  induction visits with
  | nil => rfl
  | cons calls rest ih =>
    have hvisit := count_filterMap_add counted calls
    have hreports := count_reports hm calls
    have hletOn : letOn kind (calls :: rest).flatten = letOn kind calls + letOn kind rest.flatten :=
      List.countP_append
    have hentered : entered kind (calls :: rest).flatten =
        entered kind calls + entered kind rest.flatten := List.countP_append
    rw [List.flatMap_cons, List.count_append, measurements, List.count_append, hreports, hletOn,
      hentered]
    omega

end

end Call

theorem Filter.isThrottleOf_iff (route : String) (f : Filter) :
    f.isThrottleOf route = true ↔ f.rejection? = some (.throttled route) := by
  cases f <;> simp [isThrottleOf, rejection?]

theorem Filter.isGateOf_iff (rule : String) (f : Filter) :
    f.isGateOf rule = true ↔ f.rejection? = some (.rateLimited rule) := by
  cases f <;> simp [isGateOf, rejection?]

namespace Layers

variable {ι : Type} [DecidableEq ι]

/-- **In a run**, the total of a counter and the calls that filters of its kind passed on make up
the calls that came to them. -/
theorem total_run {kind : Filter → Bool} {m : Measurement} (hm : m.isRejection = true)
    (counted : ∀ f, kind f = true ↔ f.rejection? = some m) (filters : ι → Filter)
    (events : List (LayerEvent ι)) :
    let run := (start filters).run events
    Call.letOn kind run.1.flatten ≤ Call.entered kind run.1.flatten ∧
      Measurement.total run.2.measured m =
        .count (Call.entered kind run.1.flatten - Call.letOn kind run.1.flatten) := by
  intro run
  obtain ⟨-, hmeasured⟩ := (start filters).notes_run events
  have hbalance := Call.count_measurements hm counted run.1
  refine ⟨Call.letOn_le_entered kind _, ?_⟩
  rw [hmeasured, Measurement.total_eq_count (Measurement.elapsed?_of_isRejection hm)]
  show Total.count ((run.1.flatMap Call.measurements).count m) = _
  congr 1
  omega

/-- Where all filters that count pass a request on, no counter of rejections moves. -/
theorem total_after {m : Measurement} (hm : m.isRejection = true) (l : Layers ι Backstage)
    {e : LayerEvent ι} (passed : ∀ c ∈ l.callsAt e, c.filter.counts = true → c.passedOn = true) :
    Measurement.total (l.after e).measured m = Measurement.total l.measured m := by
  obtain ⟨-, hmeasured⟩ := l.notes_after e
  have hnone : (l.callsAt e).filterMap Call.rejection? = [] := by
    rw [List.filterMap_eq_nil_iff]
    intro c hc
    unfold Call.rejection?
    split
    · rfl
    · rename_i hkept
      cases hfilter : c.filter with
      | throttle route bucket => exact absurd (passed c hc (by rw [hfilter]; rfl)) hkept
      | rateGate gate => exact absurd (passed c hc (by rw [hfilter]; rfl)) hkept
      | _ => rfl
  have hreports := Call.count_reports hm (l.callsAt e)
  have hcounter := Measurement.elapsed?_of_isRejection hm
  rw [Measurement.total_eq_count hcounter, Measurement.total_eq_count hcounter, hmeasured,
    Call.measurements, hnone, List.nil_append, List.count_append, hreports, Nat.add_zero]

end Layers

/-! ## Headline -/

/-- **Headline.**  After every run, whichever services share which layers, and also where one of
them uses a layer twice, the counter of a route is the number of requests that came to throttles of
that route less the number of those that they passed on, and the counter of a rule is the same
difference for the gates that count by it.  A request that no throttle and no gate keeps back moves
no counter, whatever the next stage does with it, and also if a host filter keeps it back. -/
theorem rejections_of_run {ι : Type} [DecidableEq ι] (filters : ι → Filter)
    (events : List (LayerEvent ι)) (route rule : String) :
    let run := (Layers.start filters).run events
    let calls := run.1.flatten
    let throttles := Filter.isThrottleOf route
    let gates := Filter.isGateOf rule
    let measured := run.2.measured
    (Call.letOn throttles calls ≤ Call.entered throttles calls ∧
      Measurement.total measured (.throttled route) =
        .count (Call.entered throttles calls - Call.letOn throttles calls)) ∧
    (Call.letOn gates calls ≤ Call.entered gates calls ∧
      Measurement.total measured (.rateLimited rule) =
        .count (Call.entered gates calls - Call.letOn gates calls)) ∧
    (∀ way v script,
      (∀ c ∈ run.2.callsAt (.visit way v script), c.filter.counts = true → c.passedOn = true) →
      let after := (run.2.after (.visit way v script)).measured
      Measurement.total after (.throttled route) = Measurement.total measured (.throttled route) ∧
      Measurement.total after (.rateLimited rule) =
        Measurement.total measured (.rateLimited rule)) := by
  intro run calls throttles gates measured
  refine ⟨Layers.total_run rfl (Filter.isThrottleOf_iff route) filters events,
    Layers.total_run rfl (Filter.isGateOf_iff rule) filters events, ?_⟩
  intro way v script passed
  exact ⟨run.2.total_after rfl passed, run.2.total_after rfl passed⟩

/-- Six visits to services that share a gate and a throttle, which stands in one of them twice and
in another one three times: the first is answered with 429 behind the filters, the second is for
another host, the gate refuses the third and the fourth, the fifth is refused when it comes to the
throttle for the third time, and the last gets no answer. -/
theorem rejections_of_run_of_six :
    let gate : RateGate := ⟨1, .path, ⟨[]⟩, ⟨.perSecond 1 1, 0, []⟩⟩
    let filters : Fin 3 → Filter := fun i => [.throttle "t" ⟨6, 6, .every 6 100 0⟩, .rateGate gate,
      .host (HostGlob.parse "a.org")][i]
    let all : Way (Fin 3) := [(0, ⟨0, 0⟩), (1, ⟨0, 1⟩), (2, ⟨0, 0⟩), (0, ⟨1, 0⟩)]
    let gated : Way (Fin 3) := [(1, ⟨0, 0⟩)]
    let visit (now : Nat) (path asked : String) : Visit :=
      ⟨now, 0, .ofString "7", ⟨"GET", ⟨none, none, path, none⟩, [("host", .ofString asked)], [],
        none⟩⟩
    let done : Script := ⟨5, .answers (.bare 200)⟩
    let silent : Script := ⟨5, .staysSilent⟩
    let events : List (LayerEvent (Fin 3)) :=
      [.visit all (visit 0 "/a" "a.org") ⟨5, .answers (.bare 429)⟩,
       .visit all (visit 1 "/b" "b.org") done, .prune 1 2,
       .visit all (visit 2 "/a" "a.org") done, .visit gated (visit 3 "/b" "c.org") done,
       .visit [(0, ⟨0, 0⟩), (0, ⟨0, 0⟩), (0, ⟨0, 0⟩)] (visit 4 "/c" "a.org") done]
    let run := (Layers.start filters).run events
    let last := visit 100 "/c" "a.org"
    Call.entered (Filter.isThrottleOf "t") run.1.flatten = 7 ∧
    Call.entered (Filter.isGateOf "path") run.1.flatten = 4 ∧
    Measurement.total run.2.measured (.throttled "t") = .count 1 ∧
    Measurement.total run.2.measured (.rateLimited "path") = .count 2 ∧
    (∀ c ∈ run.2.callsAt (.visit all last silent), c.filter.counts = true → c.passedOn = true) ∧
    Measurement.total (run.2.after (.visit all last silent)).measured (.throttled "t") =
      .count 1 := by
  intro gate filters all gated visit done silent events run last
  have hthrottles : Call.entered (Filter.isThrottleOf "t") run.1.flatten = 7 ∧
      Call.letOn (Filter.isThrottleOf "t") run.1.flatten = 6 := by decide
  have hgates : Call.entered (Filter.isGateOf "path") run.1.flatten = 4 ∧
      Call.letOn (Filter.isGateOf "path") run.1.flatten = 2 := by decide
  have hpassed : ∀ c ∈ run.2.callsAt (.visit all last silent),
      c.filter.counts = true → c.passedOn = true := by decide
  have hrun : (Layers.start filters).run events = run := rfl
  have hall := rejections_of_run filters events "t" "path"
  rw [hrun] at hall
  obtain ⟨⟨-, hthrottled⟩, ⟨-, hlimited⟩, hsame⟩ := hall
  obtain ⟨hlast, -⟩ := hsame all last silent hpassed
  rw [hthrottles.1, hthrottles.2] at hthrottled
  rw [hgates.1, hgates.2] at hlimited
  exact ⟨hthrottles.1, hgates.1, hthrottled, hlimited, hpassed, hlast.trans hthrottled⟩

end Turnstile

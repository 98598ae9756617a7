import Turnstile.Launch
import Turnstile.Proofs.Filter.Layers
/-!
  What timing filters report.

  1. **One report** (`line_completion`, `measurement_completion`) — a report shows the method and
     the path of the request as it came to the filter, the status of the response that the filter
     handed back, whoever made it, or "none" if there was no response, and the time that passed.

  2. **Samples** (`samples_measurements`) — what filters measure besides their reports are
     rejections, and these are no durations.

  3. **Nested** (`pairwise_timed`) — an outer call takes at least as long as one inside it, since it
     begins before it and ends after it.

  4. **Headline** (`completions_of_run`) — so the log of a run has one line and the histogram one
     sample for each call of a timing filter, and for nothing else.
-/

namespace Turnstile

/-- The status of an outcome as a report shows it. -/
def Outcome.label : Outcome → String
  | answered a => toString a.status
  | failed _ => "none"
  | abandoned => "none"

namespace Call

/-! ## One report -/

theorem statusText_completion (c : Call) : c.completion.statusText = c.outcome.label := by
  unfold completion Completion.statusText
  cases c.outcome <;> rfl

theorem measurement_completion (c : Call) :
    c.completion.measurement =
      .finished c.request.method c.outcome.label (c.returned - c.arrived) := by
  unfold Completion.measurement
  rw [statusText_completion]
  rfl

theorem line_completion (c : Call) :
    let millis := (c.returned - c.arrived) / 1000000
    c.completion.line =
      ⟨.info, "gateway_sample::filter::timing",
        s!"[{c.request.method}] {c.request.uri.path} completed in {millis}ms",
        [("method", .shown c.request.method), ("path", .shown c.request.uri.path),
         ("status", .shown c.outcome.label),
         ("elapsed_ms", .number (millis % 0x10000000000000000))]⟩ := by
  intro millis
  unfold Completion.line
  rw [statusText_completion]
  rfl

/-! ## Samples -/

/-- A rejection is no duration. -/
theorem elapsed?_of_mem_rejections {calls : List Call} {m : Measurement}
    (hm : m ∈ calls.filterMap rejection?) : m.elapsed? = none := by
  obtain ⟨c, -, hc⟩ := List.mem_filterMap.mp hm
  unfold rejection? at hc
  split at hc
  · cases hc
  · unfold Filter.rejection? at hc
    split at hc
    · injection hc with hc
      rw [← hc]
      rfl
    · injection hc with hc
      rw [← hc]
      rfl
    · cases hc

/-- **Samples**: the durations among what is measured of some calls are those of the reports. -/
theorem samples_measurements (calls : List Call) :
    (measurements calls).filter (·.elapsed?.isSome) =
      (timed calls).map fun c => c.completion.measurement := by
  have hrejections : (calls.filterMap rejection?).filter (·.elapsed?.isSome) = [] := by
    rw [List.filter_eq_nil_iff]
    intro m hm
    rw [elapsed?_of_mem_rejections hm]
    exact Bool.false_ne_true
  have hreports : ∀ m ∈ (timed calls).map (fun c => c.completion.measurement),
      m.elapsed?.isSome = true := by
    intro m hm
    obtain ⟨c, -, rfl⟩ := List.mem_map.mp hm
    rfl
  unfold measurements
  rw [List.filter_append, hrejections, List.nil_append, List.filter_eq_self.mpr hreports]

theorem samples_of_visits (visits : List (List Call)) :
    (visits.flatMap measurements).filter (·.elapsed?.isSome) =
      (visits.flatMap timed).map fun c => c.completion.measurement := by
  rw [List.filter_flatMap, List.map_flatMap]
  exact List.flatMap_congr fun calls _ => samples_measurements calls

/-! ## Nested -/

/-- **Nested**: of the timed calls of one request, an outer one begins before an inner one, ends
after it, and so takes at least as long. -/
theorem pairwise_timed {calls : List Call}
    (nested : calls.Pairwise fun outer inner => inner.Within outer.arrived outer.returned) :
    (timed calls).Pairwise fun inner outer =>
      outer.arrived ≤ inner.arrived ∧ inner.returned ≤ outer.returned ∧
        inner.returned - inner.arrived ≤ outer.returned - outer.arrived := by
  unfold timed
  rw [List.pairwise_reverse]
  refine (nested.filter _).imp ?_
  rintro outer inner ⟨hstart, -, hstop⟩
  exact ⟨hstart, hstop, Nat.le_trans (Nat.sub_le_sub_right hstop _) (Nat.sub_le_sub_left hstart _)⟩

end Call

/-! ## Headline -/

/-- **Headline.**  After every run, whichever services share which layers, the log has exactly one
line for each call of a timing filter, and the histogram one sample, the inner calls first; whether
the filter got an answer, an error or nothing.  Both show the method of the request, the status of
the response that the filter handed back, which is that of a filter behind it if that one rejected
the request, and the time from the arrival at the filter to the end.  A request makes one call at
each layer of its service up to the first that rejects it, so the timing filters behind that one say
nothing of it.  An outer call begins before an inner one and ends after it. -/
theorem completions_of_run {ι : Type} [DecidableEq ι] (filters : ι → Filter)
    (events : List (LayerEvent ι)) :
    let run := (Layers.start filters).run events
    let timed := run.1.flatMap Call.timed
    let samples := run.2.measured.filter (·.elapsed?.isSome)
    run.2.completions.map Completion.line = timed.map (fun c =>
      let millis := (c.returned - c.arrived) / 1000000
      ⟨.info, "gateway_sample::filter::timing",
        s!"[{c.request.method}] {c.request.uri.path} completed in {millis}ms",
        [("method", .shown c.request.method), ("path", .shown c.request.uri.path),
         ("status", .shown c.outcome.label),
         ("elapsed_ms", .number (millis % 0x10000000000000000))]⟩) ∧
    samples = timed.map (fun c =>
      .finished c.request.method c.outcome.label (c.returned - c.arrived)) ∧
    samples.map (fun m => (m.series, m.labels, m.elapsed?)) = timed.map (fun c =>
      ("gateway_request_duration_seconds",
        [("method", c.request.method), ("status", c.outcome.label)],
        some (c.returned - c.arrived))) ∧
    List.Forall₂ (fun e calls =>
      Call.Along filters e.layers calls ∧
      (Call.timed calls).length =
        (e.layers.take calls.length).countP (fun i => filters i = .timing) ∧
      (∀ c ∈ calls, ∀ other ∈ calls, c.outcome.status? = other.outcome.status?) ∧
      (∀ c ∈ calls, c.arrived ≤ c.returned) ∧
      (Call.timed calls).Pairwise fun inner outer =>
        outer.arrived ≤ inner.arrived ∧ inner.returned ≤ outer.returned ∧
          inner.returned - inner.arrived ≤ outer.returned - outer.arrived) events run.1 := by
  intro run timed samples
  obtain ⟨hcompletions, hmeasured⟩ := (Layers.start filters).notes_run events
  have hsamples : samples = timed.map fun c =>
      .finished c.request.method c.outcome.label (c.returned - c.arrived) := by
    show run.2.measured.filter _ = _
    rw [hmeasured]
    show (run.1.flatMap Call.measurements).filter _ = _
    rw [Call.samples_of_visits]
    exact List.map_congr_left fun c _ => c.measurement_completion
  refine ⟨?_, hsamples, ?_, ?_⟩
  · rw [hcompletions]
    show (timed.map Call.completion).map Completion.line = _
    rw [List.map_map]
    exact List.map_congr_left fun c _ => c.line_completion
  · rw [hsamples, List.map_map]
    rfl
  · have hkept : ∀ (l : Layers ι Backstage) (e : LayerEvent ι),
        (∀ i, (l.filters i).asNew = (filters i).asNew) →
          ∀ i, ((l.after e).filters i).asNew = (filters i).asNew := fun l e own i =>
      (l.asNew_after e i).trans (own i)
    refine Layers.forall₂_run hkept ?_ (fun _ => rfl) events
    intro l e own
    obtain ⟨halong, hstatus, hlasts, hnested⟩ := l.callsAt_spec e own
    exact ⟨halong, halong.length_timed, hstatus, hlasts, Call.pairwise_timed hnested⟩

/-- Five visits: the first is answered, the second gets no answer, the third an error; the fourth is
rejected between the two timing filters, and the last in front of both.  The outer call takes three
nanoseconds more than the inner one. -/
theorem completions_of_run_of_five :
    let filters : Fin 4 → Filter := fun i => [.host (HostGlob.parse "a.org"), .timing,
      .throttle "t" ⟨3, 3, .never⟩, .timing][i]
    let all : Way (Fin 4) := [(0, ⟨4, 4⟩), (1, ⟨1, 1⟩), (2, ⟨0, 0⟩), (3, ⟨2, 1⟩)]
    let visit (now : Nat) (path asked : String) : Visit :=
      ⟨now, 0, .ofString "7", ⟨"GET", ⟨none, none, path, none⟩, [("host", .ofString asked)], [],
        none⟩⟩
    let done : Script := ⟨5000000, .answers (.bare 200)⟩
    let events : List (LayerEvent (Fin 4)) := [.visit all (visit 0 "/a" "a.org") done,
      .visit all (visit 10 "/b" "a.org") ⟨6, .staysSilent⟩,
      .visit all (visit 20 "/c" "a.org") ⟨7, .fails "reset"⟩,
      .visit all (visit 30 "/d" "a.org") done, .visit all (visit 40 "/e" "b.org") done]
    let run := (Layers.start filters).run events
    run.1.map List.length = [4, 4, 4, 3, 1] ∧
    run.2.measured.filter (·.elapsed?.isSome) =
      [.finished "GET" "200" 5000001, .finished "GET" "200" 5000004, .finished "GET" "none" 7,
       .finished "GET" "none" 10, .finished "GET" "none" 8, .finished "GET" "none" 11,
       .finished "GET" "429" 1] ∧
    (run.2.completions.map Completion.line).map (·.message) =
      ["[GET] /a completed in 5ms", "[GET] /a completed in 5ms", "[GET] /b completed in 0ms",
       "[GET] /b completed in 0ms", "[GET] /c completed in 0ms", "[GET] /c completed in 0ms",
       "[GET] /d completed in 0ms"] := by
  intro filters all visit done events run
  have hrun : (Layers.start filters).run events = run := rfl
  have hall := completions_of_run filters events
  rw [hrun] at hall
  obtain ⟨hlines, hsamples, -⟩ := hall
  refine ⟨by decide, ?_, ?_⟩
  · rw [hsamples]
    decide
  · rw [hlines]
    decide

end Turnstile

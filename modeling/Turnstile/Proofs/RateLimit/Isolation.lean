import Turnstile.Proofs.RateLimit.Run
/-!
  The keys of a rate gate do not see each other, nor the prunes.

  1. **Specification** — take the requests of one key out of a run, and their answers: they are the
     answers in the run of those requests alone, with no prune at all.

  2. **The invariant** (`Alike`) — the gate of the whole run and the one that sees only the key have
     the same settings, and to both the key is due at the same instant.  They need not remember the
     same: after a prune the first may have forgotten what the second still holds.

  3. **The steps** — time (`Alike.later`), a request of the key (`Alike.request`), one of another
     key (`Alike.other`), a prune (`Alike.prune`).  Only the last step looks at when an entry is
     forgotten, and it is `Limiter.due_prune`.

  4. **Headline** (`judged_of_key_eq_run_alone`), by induction on the events (`run_of_alike`).
-/

namespace Turnstile.RateGate

/-! ## The invariant -/

/-- **Alike**: from `now` on, no request of the key can tell the two gates apart. -/
structure Alike (key : String) (now : Nat) (g h : RateGate) : Prop where
  rate : g.rate = h.rate
  rule : g.rule = h.rule
  proxies : g.proxies = h.proxies
  quota : g.limiter.quota = h.limiter.quota
  made : g.limiter.made = h.limiter.made
  due : g.limiter.due key now = h.limiter.due key now
  distinct : g.limiter.Distinct

variable {key : String} {now : Nat} {g h : RateGate}

theorem Alike.refl (hg : g.limiter.Distinct) : Alike key now g g :=
  ⟨rfl, rfl, rfl, rfl, rfl, rfl, hg⟩

/-! ## The steps -/

theorem Alike.later (ha : Alike key now g h) {t : Nat} (hle : now ≤ t) : Alike key t g h := by
  refine { ha with due := ?_ }
  rw [Limiter.due_later _ _ hle, Limiter.due_later _ _ hle, ha.due, ha.made]

/-- **A request of the key** gets the same answer from both gates, and leaves them alike. -/
theorem Alike.request (ha : Alike key now g h) {r : Request} (hkey : g.rule.key g.proxies r = key) :
    g.answer now r = h.answer now r ∧ Alike key now (g.check now r).2 (h.check now r).2 := by
  have hkey' : h.rule.key h.proxies r = key := by
    rw [← ha.rule, ← ha.proxies]
    exact hkey
  rw [answer_eq, answer_eq, check_eq, check_eq, hkey, hkey', Limiter.check_eq, Limiter.check_eq,
    ← ha.due, ← ha.made, ← ha.quota]
  by_cases hearly : now - g.limiter.made < g.limiter.due key now - g.limiter.quota.tolerance
  · rw [if_pos hearly, if_pos hearly]
    refine ⟨?_, ha⟩
    show some (g.refusal _) = some (h.refusal _)
    unfold refusal
    rw [ha.rate]
  · rw [if_neg hearly, if_neg hearly]
    refine ⟨rfl, ?_⟩
    refine { ha with due := ?_, distinct := Limiter.remember_distinct ha.distinct _ _ }
    show (g.limiter.remember _ _).due key now = (h.limiter.remember _ _).due key now
    rw [Limiter.due_remember_self, Limiter.due_remember_self, ha.made]

/-- **A request of another key** changes nothing that is due under this one. -/
theorem Alike.other (ha : Alike key now g h) {r : Request} (hkey : g.rule.key g.proxies r ≠ key) :
    Alike key now (g.check now r).2 h := by
  rw [check_eq, Limiter.check_eq]
  split
  · exact ha
  · refine { ha with due := ?_, distinct := Limiter.remember_distinct ha.distinct _ _ }
    show (g.limiter.remember _ _).due key now = h.limiter.due key now
    rw [Limiter.due_remember_other _ (Ne.symm hkey), ha.due]

/-- **A prune** forgets nothing that is still due. -/
theorem Alike.prune (ha : Alike key now g h) : Alike key now (g.prune now) h := by
  refine { ha with due := ?_, distinct := Limiter.prune_distinct ha.distinct now }
  show (g.limiter.prune now).due key now = h.limiter.due key now
  rw [Limiter.due_prune ha.distinct, ha.due]

/-! ## The run -/

/-- By induction on the events, with the clock at the last one. -/
theorem run_of_alike (ha : Alike key now g h) {events : List GateEvent}
    (ordered : (events.map (·.now)).Pairwise (· ≤ ·)) (hle : ∀ e ∈ events, now ≤ e.now) :
    (g.run events).1.filter (·.asks g.rule g.proxies key) =
      (h.run (events.filter (·.asks g.rule g.proxies key))).1 := by
  induction events generalizing now g h with
  | nil => rfl
  | cons e rest ih =>
    rw [List.map_cons, List.pairwise_cons] at ordered
    have ha' := ha.later (hle e List.mem_cons_self)
    have hrest : ∀ f ∈ rest, e.now ≤ f.now := fun f hf =>
      ordered.1 f.now (List.mem_map_of_mem hf)
    cases e with
    | request t r =>
      rw [run_request]
      by_cases hkey : g.rule.key g.proxies r = key
      · obtain ⟨hanswer, hnext⟩ := ha'.request hkey
        have hjudged : Judged.asks g.rule g.proxies key ⟨t, r, g.answer t r⟩ = true :=
          beq_iff_eq.mpr hkey
        have hasked : GateEvent.asks g.rule g.proxies key (.request t r) = true :=
          beq_iff_eq.mpr hkey
        have hih := ih hnext ordered.2 hrest
        rw [List.filter_cons_of_pos hjudged, List.filter_cons_of_pos hasked, run_request]
        change g.answer t r = h.answer t r at hanswer
        rw [hanswer]
        exact congrArg (_ :: ·) hih
      · have hjudged : ¬ Judged.asks g.rule g.proxies key ⟨t, r, g.answer t r⟩ = true :=
          fun h => hkey (beq_iff_eq.mp h)
        have hasked : ¬ GateEvent.asks g.rule g.proxies key (.request t r) = true :=
          fun h => hkey (beq_iff_eq.mp h)
        rw [List.filter_cons_of_neg hjudged, List.filter_cons_of_neg hasked]
        exact ih (ha'.other hkey) ordered.2 hrest
    | prune t => exact ih ha'.prune ordered.2 hrest

/-! ## Headline -/

/-- **Headline.**  In a run with a clock that never goes back, the requests of a key are judged as
if there were no others and nothing were ever forgotten: the same are passed on, and the others are
refused with the same waiting times. -/
theorem judged_of_key_eq_run_alone {rate burst : UInt32} {rule : KeyRule}
    {proxies : TrustedProxies} {made : Nat} {g : RateGate}
    (created : RateGate.create rate burst rule proxies made = .ok g) {events : List GateEvent}
    (ordered : (events.map (·.now)).Pairwise (· ≤ ·)) (key : String) :
    (g.run events).1.filter (·.asks rule proxies key) =
      (g.run (events.filter (·.asks rule proxies key))).1 := by
  have hdistinct := create_distinct created
  obtain ⟨-, rfl⟩ := create_cases created
  exact run_of_alike (.refl hdistinct) ordered fun e _ => Nat.zero_le e.now

/-- Two keys and a prune at the very instant at which the first key may be forgotten. -/
theorem judged_of_key_eq_run_alone_of_two :
    let g : RateGate := ⟨2, .path, ⟨[]⟩, ⟨.perSecond 2 1, 100, []⟩⟩
    let a : Request := ⟨"GET", ⟨none, none, "/a", none⟩, [], [], none⟩
    let b : Request := ⟨"GET", ⟨none, none, "/b", none⟩, [], [], none⟩
    let events := [.request 100 a, .request 100 b, .prune 1000000100, .request 1000000100 a,
      .request 1000000101 a]
    create 2 1 .path ⟨[]⟩ 100 = .ok g ∧ (events.map GateEvent.now).Pairwise (· ≤ ·) ∧
    (g.run events).1.filter (·.asks .path ⟨[]⟩ "/a") =
      [⟨100, a, none⟩, ⟨1000000100, a, none⟩, ⟨1000000101, a, some (g.refusal 499999999)⟩] ∧
    (g.run events).1.filter (·.asks .path ⟨[]⟩ "/a") =
      (g.run (events.filter (·.asks .path ⟨[]⟩ "/a"))).1 :=
  have created : create 2 1 .path ⟨[]⟩ 100 =
    .ok ⟨2, .path, ⟨[]⟩, ⟨.perSecond 2 1, 100, []⟩⟩ := rfl
  ⟨created, by decide, by decide, judged_of_key_eq_run_alone created (by decide) "/a"⟩

end Turnstile.RateGate

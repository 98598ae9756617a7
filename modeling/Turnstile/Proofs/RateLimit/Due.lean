import Turnstile.Proofs.RateLimit.Run
/-!
  When a key is due, from one event to the next.

  1. **Obeys** — a gate that was set up goes on counting by its rule, with its quota and from the
     instant at which it was made, whatever happens to it.

  2. **One event** (`due_after`, `due_le_of_admitted`) — an event moves the instant at which a key
     is due by one step of the quota for each request of the key that it admits, and admits one only
     if the key is due within the tolerance.  A prune, a refusal and a request of another key admit
     none, so they move nothing.

  3. **A run** (`due_run_le`, `due_run_of_none`) — so a key is never due later than the tolerance
     and one step from now, and while no request of it is admitted, only the clock moves it.
-/

namespace Turnstile

/-- The clock never goes back: from `start` over the events to `stop`. -/
def GateEvent.InOrder (start : Nat) (events : List GateEvent) (stop : Nat) : Prop :=
  (start :: (events.map (·.now) ++ [stop])).Pairwise (· ≤ ·)

instance (start : Nat) (events : List GateEvent) (stop : Nat) :
    Decidable (GateEvent.InOrder start events stop) :=
  inferInstanceAs (Decidable ((start :: (events.map (·.now) ++ [stop])).Pairwise (· ≤ ·)))

namespace GateEvent.InOrder

variable {start stop : Nat} {e : GateEvent} {events : List GateEvent}

theorem start_le_stop (h : InOrder start events stop) : start ≤ stop :=
  (List.pairwise_cons.mp h).1 stop (List.mem_append_right _ List.mem_cons_self)

theorem head (h : InOrder start (e :: events) stop) : start ≤ e.now :=
  (List.pairwise_cons.mp h).1 e.now List.mem_cons_self

theorem tail (h : InOrder start (e :: events) stop) : InOrder e.now events stop :=
  (List.pairwise_cons.mp h).2

end GateEvent.InOrder

/-- Whether a request that has been judged was counted under a key and passed on. -/
def Judged.isAdmitted (rule : KeyRule) (proxies : TrustedProxies) (key : String) (j : Judged) :
    Bool :=
  j.asks rule proxies key && j.answer.isNone

namespace RateGate

/-! ## One event -/

/-- The gate after an event. -/
def after (g : RateGate) : GateEvent → RateGate
  | .request now r => (g.check now r).2
  | .prune now => g.prune now

/-- The request of an event with its answer, if it is one. -/
def judged (g : RateGate) : GateEvent → List Judged
  | .request now r => [⟨now, r, g.answer now r⟩]
  | .prune _ => []

theorem run_cons (g : RateGate) (e : GateEvent) (rest : List GateEvent) :
    g.run (e :: rest) =
      (g.judged e ++ ((g.after e).run rest).1, ((g.after e).run rest).2) := by
  cases e <;> rfl

theorem now_of_mem_judged {g : RateGate} {e : GateEvent} {j : Judged} (hj : j ∈ g.judged e) :
    j.now = e.now := by
  cases e with
  | request now r =>
    rw [List.mem_singleton.mp hj]
    rfl
  | prune now => cases hj

/-- **Obeys**: the gate counts by a rule, with a quota and from the instant at which it was made,
and remembers no key twice. -/
structure Obeys (rule : KeyRule) (proxies : TrustedProxies) (quota : Quota) (made : Nat)
    (g : RateGate) : Prop where
  rule_eq : g.rule = rule
  proxies_eq : g.proxies = proxies
  quota_eq : g.limiter.quota = quota
  made_eq : g.limiter.made = made
  distinct : g.limiter.Distinct

theorem create_obeys {rate burst : UInt32} {rule : KeyRule} {proxies : TrustedProxies}
    {made : Nat} {g : RateGate} (created : create rate burst rule proxies made = .ok g) :
    Obeys rule proxies (.perSecond rate.toNat burst.toNat) made g := by
  have hdistinct := create_distinct created
  obtain ⟨-, rfl⟩ := create_cases created
  exact ⟨rfl, rfl, rfl, rfl, hdistinct⟩

/-- A gate that was just set up remembers no key, so every key is due at once. -/
theorem due_create {rate burst : UInt32} {rule : KeyRule} {proxies : TrustedProxies}
    {made : Nat} {g : RateGate} (created : create rate burst rule proxies made = .ok g)
    (key : String) (now : Nat) : g.limiter.due key now = now - made := by
  obtain ⟨-, rfl⟩ := create_cases created
  exact Nat.zero_max _

section

variable {rule : KeyRule} {proxies : TrustedProxies} {quota : Quota} {made : Nat} {g : RateGate}

theorem Obeys.key_eq (hg : Obeys rule proxies quota made g) (r : Request) :
    g.rule.key g.proxies r = rule.key proxies r := by
  rw [hg.rule_eq, hg.proxies_eq]

/-- A request is passed on if its key is due within the tolerance; then the key is due one step
later.  Otherwise the gate stays as it is. -/
theorem Obeys.check_cases (hg : Obeys rule proxies quota made g) (now : Nat) (r : Request) :
    (g.limiter.due (rule.key proxies r) now ≤ now - made + quota.tolerance ∧
      g.answer now r = none ∧
      (g.check now r).2 = { g with
        limiter := g.limiter.remember (rule.key proxies r)
          (g.limiter.due (rule.key proxies r) now + quota.step) }) ∨
    (now - made + quota.tolerance < g.limiter.due (rule.key proxies r) now ∧
      g.check now r = (.refused (g.limiter.due (rule.key proxies r) now - quota.tolerance -
        (now - made)), g) ∧
      g.answer now r = some (g.refusal (g.limiter.due (rule.key proxies r) now -
        quota.tolerance - (now - made)))) := by
  rw [answer_eq, check_eq, hg.key_eq, Limiter.check_eq, hg.quota_eq, hg.made_eq]
  by_cases hearly : now - made < g.limiter.due (rule.key proxies r) now - quota.tolerance
  · rw [if_pos hearly]
    exact Or.inr ⟨by omega, rfl, rfl⟩
  · rw [if_neg hearly]
    exact Or.inl ⟨by omega, rfl, rfl⟩

theorem Obeys.after (hg : Obeys rule proxies quota made g) (e : GateEvent) :
    Obeys rule proxies quota made (g.after e) := by
  cases e with
  | request now r =>
    show Obeys rule proxies quota made (g.check now r).2
    rcases hg.check_cases now r with ⟨-, -, hnext⟩ | ⟨-, hsame, -⟩
    · rw [hnext]
      exact { hg with distinct := Limiter.remember_distinct hg.distinct _ _ }
    · rw [hsame]
      exact hg
  | prune now => exact { hg with distinct := Limiter.prune_distinct hg.distinct now }

theorem Obeys.run (hg : Obeys rule proxies quota made g) (events : List GateEvent) :
    Obeys rule proxies quota made (g.run events).2 := by
  induction events generalizing g with
  | nil => exact hg
  | cons e rest ih =>
    rw [run_cons]
    exact ih (hg.after e)

/-- How many requests of a key an event admits: one or none. -/
def admitted (g : RateGate) (key : String) (e : GateEvent) : Nat :=
  (g.judged e).countP (·.isAdmitted g.rule g.proxies key)

/-- **The step**: a key is due one step later for each request of it that is admitted. -/
theorem Obeys.due_after (hg : Obeys rule proxies quota made g) (key : String) (e : GateEvent) :
    (g.after e).limiter.due key e.now =
      g.limiter.due key e.now + g.admitted key e * quota.step := by
  unfold admitted
  cases e with
  | request now r =>
    rw [hg.rule_eq, hg.proxies_eq]
    show (g.check now r).2.limiter.due key now = g.limiter.due key now +
      [(⟨now, r, g.answer now r⟩ : Judged)].countP (·.isAdmitted rule proxies key) * quota.step
    rw [List.countP_singleton]
    unfold Judged.isAdmitted Judged.asks
    dsimp only
    rcases hg.check_cases now r with ⟨-, hanswer, hnext⟩ | ⟨-, hsame, hanswer⟩
    · rw [hanswer, hnext]
      by_cases hkey : rule.key proxies r = key
      · subst hkey
        rw [Limiter.due_remember_self, hg.made_eq]
        have hpresent : now - made ≤ g.limiter.due (rule.key proxies r) now := by
          rw [← hg.made_eq]
          exact Nat.le_max_right _ _
        simp only [BEq.rfl, Option.isNone_none, Bool.and_self, if_true, Nat.one_mul]
        omega
      · rw [Limiter.due_remember_other _ (Ne.symm hkey)]
        simp [hkey]
    · rw [hanswer, hsame]
      simp
  | prune now =>
    show (g.limiter.prune now).due key now = g.limiter.due key now + 0 * quota.step
    rw [Limiter.due_prune hg.distinct, Nat.zero_mul, Nat.add_zero]

/-- A request is admitted only if its key is due within the tolerance. -/
theorem Obeys.due_le_of_admitted (hg : Obeys rule proxies quota made g) {key : String}
    {e : GateEvent} (hadmitted : g.admitted key e ≠ 0) :
    g.limiter.due key e.now ≤ e.now - made + quota.tolerance := by
  obtain ⟨j, hj, hjudged⟩ := List.countP_pos_iff.mp (Nat.pos_of_ne_zero hadmitted)
  cases e with
  | request now r =>
    obtain rfl := List.mem_singleton.mp hj
    unfold Judged.isAdmitted Judged.asks at hjudged
    rw [hg.rule_eq, hg.proxies_eq, Bool.and_eq_true, beq_iff_eq, Option.isNone_iff_eq_none]
      at hjudged
    obtain ⟨rfl, hpassed⟩ := hjudged
    have hanswer : g.answer now r = none := hpassed
    rcases hg.check_cases now r with ⟨hdue, -, -⟩ | ⟨-, -, hrefused⟩
    · exact hdue
    · rw [hanswer] at hrefused
      cases hrefused
  | prune now => cases hj

/-- What an event admits, it was asked for. -/
theorem Obeys.admitted_le_asks (hg : Obeys rule proxies quota made g) (key : String)
    (e : GateEvent) : g.admitted key e ≤ (e.asks rule proxies key).toNat := by
  unfold admitted
  cases e with
  | request now r =>
    rw [hg.rule_eq, hg.proxies_eq]
    show [(⟨now, r, g.answer now r⟩ : Judged)].countP (·.isAdmitted rule proxies key) ≤
      (rule.key proxies r == key).toNat
    rw [List.countP_singleton]
    unfold Judged.isAdmitted Judged.asks
    cases rule.key proxies r == key
    · exact Nat.le_refl 0
    · show (if _ then 1 else 0) ≤ 1
      split <;> omega
  | prune now => exact Nat.le_refl 0

/-! ## A run -/

/-- **Never far ahead**: a key is due at most the tolerance and one step from now. -/
theorem Obeys.due_run_le (hg : Obeys rule proxies quota made g) {key : String} {now stop : Nat}
    {events : List GateEvent} (ordered : GateEvent.InOrder now events stop)
    (hdue : g.limiter.due key now ≤ now - made + quota.tolerance + quota.step) :
    (g.run events).2.limiter.due key stop ≤ stop - made + quota.tolerance + quota.step := by
  induction events generalizing now g with
  | nil =>
    have hle := ordered.start_le_stop
    show g.limiter.due key stop ≤ _
    rw [Limiter.due_later _ _ hle, hg.made_eq]
    omega
  | cons e rest ih =>
    rw [run_cons]
    refine ih (hg.after e) ordered.tail ?_
    have hnow := ordered.head
    rw [hg.due_after]
    by_cases hnone : g.admitted key e = 0
    · rw [hnone, Limiter.due_later _ _ hnow, hg.made_eq]
      omega
    · have hwithin := hg.due_le_of_admitted hnone
      have hone : g.admitted key e = 1 := by
        have hasked := hg.admitted_le_asks key e
        have hone := (e.asks rule proxies key).toNat_le
        omega
      rw [hone]
      omega

/-- **While none is admitted** only the clock moves what is due. -/
theorem Obeys.due_run_of_none (hg : Obeys rule proxies quota made g) {key : String}
    {now stop : Nat} {events : List GateEvent} (ordered : GateEvent.InOrder now events stop)
    (hnone : ∀ j ∈ (g.run events).1, j.isAdmitted rule proxies key = false) :
    (g.run events).2.limiter.due key stop = max (g.limiter.due key now) (stop - made) := by
  induction events generalizing now g with
  | nil =>
    show g.limiter.due key stop = _
    rw [Limiter.due_later _ _ ordered.start_le_stop, hg.made_eq]
  | cons e rest ih =>
    rw [run_cons] at hnone ⊢
    have hfirst : g.admitted key e = 0 := by
      unfold admitted
      rw [List.countP_eq_zero, hg.rule_eq, hg.proxies_eq]
      intro j hj
      rw [hnone j (List.mem_append_left _ hj)]
      exact Bool.false_ne_true
    have hrest := ih (hg.after e) ordered.tail fun j hj => hnone j (List.mem_append_right _ hj)
    have hstop := ordered.tail.start_le_stop
    rw [hrest, hg.due_after, hfirst, Limiter.due_later _ _ ordered.head, hg.made_eq]
    omega

end

end RateGate

end Turnstile

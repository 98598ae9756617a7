import Turnstile.Proofs.RateLimit.Due
/-!
  What a rate gate tells a client that it refuses.

  1. **The wait** (`Obeys.wait_of_answer`) — a refused key is due beyond the tolerance, but no more
     than a step beyond it, and a step takes at most a second.  So the wait is positive and at most
     a second, and the client is told to come back after one (`retryAfter_eq_one`).

  2. **Afterwards** (`Obeys.answer_eq_none_iff`) — while no request of the key is admitted, only the
     clock moves what is due, so the wait is over when it was said to be, and not before.

  3. **Headline** (`retryAfter_of_refusal`), for every gate that was set up, in every state that it
     reaches with a clock that never goes back.
-/

namespace Turnstile

/-- At least one request a second is promised, so no step takes longer. -/
theorem Quota.step_le_second (rate burst : Nat) :
    (perSecond rate burst).step ≤ Duration.second := by
  have hdiv : Duration.second / rate ≤ Duration.second := Nat.div_le_self _ _
  have hone : 1 ≤ Duration.second := by decide
  show max (Duration.second / rate) 1 ≤ Duration.second
  omega

/-- The whole seconds of a wait are rounded down, but never below one. -/
theorem Limiter.retryAfter_eq_one {wait : Nat} (h : wait ≤ Duration.second) :
    retryAfter wait = 1 := by
  have hsecs : wait / Duration.second ≤ 1 := by
    have hdiv := Nat.div_le_div_right (c := Duration.second) h
    rwa [Nat.div_self (by decide)] at hdiv
  show max (wait / Duration.second) 1 = 1
  omega

namespace RateGate

theorem getAll_refusal (g : RateGate) (wait : Nat) :
    Headers.getAll (g.refusal wait).headers "retry-after" =
      [.ofString (toString (Limiter.retryAfter wait))] := rfl

section

variable {rule : KeyRule} {proxies : TrustedProxies} {quota : Quota} {made : Nat} {g : RateGate}

/-- **The wait**: a refusal changes nothing, and the key is due its wait beyond the tolerance. -/
theorem Obeys.wait_of_answer (hg : Obeys rule proxies quota made g) {now : Nat} {r : Request}
    {answer : Response} (refused : g.answer now r = some answer) :
    ∃ wait, 0 < wait ∧ g.check now r = (.refused wait, g) ∧ answer = g.refusal wait ∧
      g.limiter.due (rule.key proxies r) now = now - made + wait + quota.tolerance := by
  rcases hg.check_cases now r with ⟨-, hpassed, -⟩ | ⟨hearly, hsame, hrefused⟩
  · rw [hpassed] at refused
    cases refused
  · rw [hrefused] at refused
    exact ⟨_, by omega, hsame, (Option.some.inj refused).symm, by omega⟩

/-- **Afterwards**: a request of a key is passed on exactly if the wait is over. -/
theorem Obeys.answer_eq_none_iff (hg : Obeys rule proxies quota made g) {now later wait : Nat}
    {r : Request} (hmade : made ≤ now) (hle : now ≤ later)
    (hdue : g.limiter.due (rule.key proxies r) later =
      max (now - made + wait + quota.tolerance) (later - made)) :
    g.answer later r = none ↔ now + wait ≤ later := by
  rcases hg.check_cases later r with ⟨hwithin, hpassed, -⟩ | ⟨hearly, -, hrefused⟩
  · exact iff_of_true hpassed (by omega)
  · refine iff_of_false ?_ (by omega)
    rw [hrefused]
    exact Option.some_ne_none _

end

/-! ## Headline -/

/-- **Headline.**  A refused client is told to come back after one second; the wait is positive and
at most that long; and as long as no request of its key is admitted in between, whatever else the
gate is asked and whenever it is pruned, a request of the key is passed on exactly if the wait is
over, and so whenever the second is over. -/
theorem retryAfter_of_refusal {rate burst : UInt32} {rule : KeyRule} {proxies : TrustedProxies}
    {made : Nat} {g : RateGate} (created : RateGate.create rate burst rule proxies made = .ok g)
    {events : List GateEvent} {now : Nat} (ordered : GateEvent.InOrder made events now)
    {r : Request} {answer : Response} (refused : (g.run events).2.answer now r = some answer) :
    let refusing := (g.run events).2.check now r
    Headers.getAll answer.headers "retry-after" = [.ofString "1"] ∧
    ∃ wait, refusing.1 = .refused wait ∧ 0 < wait ∧ wait ≤ Duration.second ∧
      ∀ more later again, GateEvent.InOrder now more later →
        rule.key proxies again = rule.key proxies r →
        (∀ j ∈ (refusing.2.run more).1,
          j.isAdmitted rule proxies (rule.key proxies r) = false) →
        ((refusing.2.run more).2.answer later again = none ↔ now + wait ≤ later) ∧
        (now + Duration.second ≤ later → (refusing.2.run more).2.answer later again = none) := by
  intro refusing
  have hg := (create_obeys created).run events
  obtain ⟨wait, hpos, hcheck, rfl, hdue⟩ := hg.wait_of_answer refused
  have hrefusing : refusing = (.refused wait, (g.run events).2) := hcheck
  have hstart : g.limiter.due (rule.key proxies r) made ≤
      made - made + (Quota.perSecond rate.toNat burst.toNat).tolerance +
        (Quota.perSecond rate.toNat burst.toNat).step := by
    rw [due_create created]
    omega
  have hahead := (create_obeys created).due_run_le ordered hstart
  have hstep := Quota.step_le_second rate.toNat burst.toNat
  have hwait : wait ≤ Duration.second := by omega
  rw [hrefusing]
  refine ⟨?_, wait, rfl, hpos, hwait, ?_⟩
  · rw [getAll_refusal, Limiter.retryAfter_eq_one hwait]
    rfl
  · intro more later again hmore hkey hnone
    have hlater := hg.due_run_of_none hmore hnone
    rw [hdue, ← hkey] at hlater
    have hiff := (hg.run more).answer_eq_none_iff ordered.start_le_stop hmore.start_le_stop hlater
    exact ⟨hiff, fun hsecond => hiff.mpr (by omega)⟩

/-- The longest wait that there is, with a prune, another key and a second refusal before it is
over. -/
theorem retryAfter_of_refusal_of_one :
    let g : RateGate := ⟨1, .path, ⟨[]⟩, ⟨.perSecond 1 1, 100, []⟩⟩
    let a : Request := ⟨"GET", ⟨none, none, "/a", none⟩, [], [], none⟩
    let b : Request := ⟨"GET", ⟨none, none, "/b", none⟩, [], [], none⟩
    let events : List GateEvent := [.request 100 a]
    let more : List GateEvent := [.prune 100, .request 200 b, .request 1000000099 a]
    let refusing := (g.run events).2.check 100 a
    create 1 1 .path ⟨[]⟩ 100 = .ok g ∧ GateEvent.InOrder 100 events 100 ∧
    (g.run events).2.answer 100 a = some (g.refusal 1000000000) ∧
    Headers.getAll (g.refusal 1000000000).headers "retry-after" = [.ofString "1"] ∧
    GateEvent.InOrder 100 more 1000000100 ∧
    (∀ j ∈ (refusing.2.run more).1, j.isAdmitted .path ⟨[]⟩ "/a" = false) ∧
    (refusing.2.run more).2.answer 1000000100 a = none := by
  intro g a b events more refusing
  have created : create 1 1 .path ⟨[]⟩ 100 = .ok g := rfl
  have ordered : GateEvent.InOrder 100 events 100 := by decide
  have refused : (g.run events).2.answer 100 a = some (g.refusal 1000000000) := by decide
  have hmore : GateEvent.InOrder 100 more 1000000100 := by decide
  have hnone : ∀ j ∈ (refusing.2.run more).1, j.isAdmitted .path ⟨[]⟩ "/a" = false := by decide
  obtain ⟨htold, wait, -, -, -, hover⟩ := retryAfter_of_refusal created ordered refused
  exact ⟨created, ordered, refused, htold, hmore, hnone,
    (hover more 1000000100 a hmore rfl hnone).2 (by decide)⟩

end RateGate

end Turnstile

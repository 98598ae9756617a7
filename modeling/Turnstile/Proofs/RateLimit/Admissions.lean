import Turnstile.Proofs.RateLimit.Due
/-!
  How many requests of one key a rate gate admits.

  1. **At most** (`Obeys.admittedWithin_mul_le`) — in a window, every admission moves the instant at
     which the key is due by a step, and the last of them still finds it within the tolerance.  So
     the admissions of a window and the steps between them fit into the window, the tolerance and
     one step more.  Where the instant stands when the window begins does not matter, as it is never
     in the past.

  2. **At least** (`Obeys.answer_of_room`) — each admission of the past has moved the instant no
     further than the tolerance and a step from itself.  After that time without admissions the key
     is due at once (`Obeys.due_run_of_idle`), and a whole burst is admitted.

  3. **Headline** (`admissions_of_key`), with both bounds in terms of the settings.
-/

namespace Turnstile

/-- A request may come early by all the steps of a burst but the first. -/
theorem Quota.tolerance_add_step (rate burst : Nat) :
    (perSecond rate burst).tolerance + (perSecond rate burst).step =
      max burst 1 * (perSecond rate burst).step := by
  obtain ⟨n, hn⟩ : ∃ n, max burst 1 = n + 1 := ⟨max burst 1 - 1, by omega⟩
  show (perSecond rate burst).step * (max burst 1 - 1) + (perSecond rate burst).step = _
  rw [hn, Nat.add_sub_cancel, Nat.add_mul, Nat.one_mul, Nat.mul_comm]

theorem Quota.step_pos (rate burst : Nat) : 0 < (perSecond rate burst).step :=
  Nat.le_max_right _ 1

namespace RateGate

/-- How many requests of a key are passed on from `start` to `stop`, both included. -/
def admittedWithin (g : RateGate) (key : String) (start stop : Nat) (events : List GateEvent) :
    Nat :=
  (g.run events).1.countP fun j =>
    j.isAdmitted g.rule g.proxies key && decide (start ≤ j.now ∧ j.now ≤ stop)

section

variable {rule : KeyRule} {proxies : TrustedProxies} {quota : Quota} {made : Nat} {g : RateGate}
  {key : String}

theorem Obeys.admittedWithin_cons (hg : Obeys rule proxies quota made g) (start stop : Nat)
    (e : GateEvent) (rest : List GateEvent) :
    g.admittedWithin key start stop (e :: rest) =
      (if start ≤ e.now ∧ e.now ≤ stop then g.admitted key e else 0) +
        (g.after e).admittedWithin key start stop rest := by
  unfold admittedWithin admitted
  have hrule : (g.after e).rule = g.rule := (hg.after e).rule_eq.trans hg.rule_eq.symm
  have hproxies : (g.after e).proxies = g.proxies :=
    (hg.after e).proxies_eq.trans hg.proxies_eq.symm
  rw [run_cons, List.countP_append, hrule, hproxies]
  congr 1
  split
  · rename_i hin
    refine List.countP_congr fun j hj => ?_
    rw [now_of_mem_judged hj, decide_eq_true hin, Bool.and_true]
  · rename_i hout
    rw [List.countP_eq_zero]
    intro j hj
    rw [now_of_mem_judged hj, decide_eq_false hout, Bool.and_false]
    exact Bool.false_ne_true

/-! ## At most -/

/-- **From the start of the window on**: by induction on the events, with the clock at the last one.
What is due carries the count, since each admission in the window moves it by a step. -/
theorem Obeys.due_add_admittedWithin_le (hg : Obeys rule proxies quota made g)
    {start stop now last : Nat} {events : List GateEvent}
    (ordered : GateEvent.InOrder now events last) :
    g.admittedWithin key start stop events = 0 ∨
      g.limiter.due key now + g.admittedWithin key start stop events * quota.step ≤
        stop - made + quota.tolerance + quota.step := by
  induction events generalizing now g with
  | nil => exact Or.inl rfl
  | cons e rest ih =>
    have hnow := ordered.head
    have hlater : g.limiter.due key now ≤ g.limiter.due key e.now := by
      rw [Limiter.due_later _ _ hnow]
      exact Nat.le_max_left _ _
    have hih := ih (hg.after e) ordered.tail
    have hasked := hg.admitted_le_asks key e
    have hone := (e.asks rule proxies key).toNat_le
    rw [hg.due_after] at hih
    rw [hg.admittedWithin_cons]
    generalize (g.after e).admittedWithin key start stop rest = more at hih ⊢
    have hcounted : (if start ≤ e.now ∧ e.now ≤ stop then g.admitted key e else 0) = 0 ∨
        (start ≤ e.now ∧ e.now ≤ stop) ∧ g.admitted key e = 1 := by
      split
      · omega
      · exact Or.inl rfl
    rcases hcounted with hnone | ⟨hin, hadmitted⟩
    · rw [hnone, Nat.zero_add]
      exact hih.imp_right fun hih => by omega
    · have hwithin : g.limiter.due key e.now ≤ e.now - made + quota.tolerance :=
        hg.due_le_of_admitted (by omega)
      rw [hadmitted, Nat.one_mul] at hih
      rw [if_pos hin, hadmitted, Nat.add_mul, Nat.one_mul]
      right
      rcases hih with rfl | hih <;> omega

/-- **Any window**: before it the gate only changes; at its first event the key is due at the
present or later. -/
theorem Obeys.admittedWithin_mul_le (hg : Obeys rule proxies quota made g)
    {now last : Nat} {events : List GateEvent} (ordered : GateEvent.InOrder now events last)
    (start width : Nat) :
    g.admittedWithin key start (start + width) events * quota.step ≤
      width + (quota.tolerance + quota.step) := by
  induction events generalizing now g with
  | nil =>
    show 0 * quota.step ≤ _
    omega
  | cons e rest ih =>
    by_cases hbefore : e.now < start
    · rw [hg.admittedWithin_cons, if_neg (by omega), Nat.zero_add]
      exact ih (hg.after e) ordered.tail
    · have hpresent : e.now - made ≤ g.limiter.due key e.now := by
        rw [← hg.made_eq]
        exact Nat.le_max_right _ _
      have hfrom : GateEvent.InOrder e.now (e :: rest) last := by
        refine List.pairwise_cons.mpr ⟨fun t ht => ?_, ordered.tail⟩
        rcases List.mem_cons.mp ht with rfl | ht
        · exact Nat.le_refl _
        · exact (List.pairwise_cons.mp ordered.tail).1 t ht
      have hcounted : g.admittedWithin key start (start + width) (e :: rest) = 0 ∨
          g.limiter.due key e.now +
              g.admittedWithin key start (start + width) (e :: rest) * quota.step ≤
            start + width - made + quota.tolerance + quota.step :=
        hg.due_add_admittedWithin_le hfrom
      rcases hcounted with hnone | hfits
      · rw [hnone]
        omega
      · omega

/-! ## At least -/

/-- **Nothing left**: if every admission lies the tolerance and a step back, the key is due at
once. -/
theorem Obeys.due_run_of_idle (hg : Obeys rule proxies quota made g) {now stop : Nat}
    {events : List GateEvent} (ordered : GateEvent.InOrder now events stop) (hmade : made ≤ now)
    (hdue : g.limiter.due key now ≤ stop - made)
    (idle : ∀ j ∈ (g.run events).1, j.isAdmitted rule proxies key = true →
      j.now + (quota.tolerance + quota.step) ≤ stop) :
    (g.run events).2.limiter.due key stop = stop - made := by
  induction events generalizing now g with
  | nil =>
    show g.limiter.due key stop = _
    rw [Limiter.due_later _ _ ordered.start_le_stop, hg.made_eq]
    omega
  | cons e rest ih =>
    rw [run_cons] at idle ⊢
    have hnow := ordered.head
    have hstop := ordered.tail.start_le_stop
    refine ih (hg.after e) ordered.tail (by omega) ?_ fun j hj => idle j (List.mem_append_right _ hj)
    rw [hg.due_after]
    by_cases hnone : g.admitted key e = 0
    · rw [hnone, Limiter.due_later _ _ hnow, hg.made_eq]
      omega
    · have hwithin := hg.due_le_of_admitted hnone
      have hasked := hg.admitted_le_asks key e
      have hone := (e.asks rule proxies key).toNat_le
      have hadmitted : g.admitted key e = 1 := by omega
      obtain ⟨j, hj, hjudged⟩ := List.countP_pos_iff.mp (Nat.pos_of_ne_zero hnone)
      rw [hg.rule_eq, hg.proxies_eq] at hjudged
      have hback := idle j (List.mem_append_left _ hj) hjudged
      rw [now_of_mem_judged hj] at hback
      rw [hadmitted]
      omega

/-- **The burst**: as long as the steps that are taken already and those of the requests still to
come fit into the burst, all of these are admitted. -/
theorem Obeys.answer_of_room (hg : Obeys rule proxies quota made g) {now burst taken : Nat}
    {more : List GateEvent} (hnow : ∀ e ∈ more, e.now = now)
    (hburst : quota.tolerance + quota.step = burst * quota.step)
    (hdue : g.limiter.due key now ≤ now - made + taken * quota.step)
    (hroom : taken + more.countP (·.asks rule proxies key) ≤ burst) :
    ∀ j ∈ (g.run more).1, j.asks rule proxies key = true → j.answer = none := by
  induction more generalizing taken g with
  | nil =>
    intro j hj
    cases hj
  | cons e rest ih =>
    have he : e.now = now := hnow e List.mem_cons_self
    have hasked := hg.admitted_le_asks key e
    rw [List.countP_cons] at hroom
    intro j hj hkey
    rw [run_cons] at hj
    rcases List.mem_append.mp hj with hj | hj
    · cases e with
      | request t r =>
        obtain rfl := List.mem_singleton.mp hj
        have hcounted : GateEvent.asks rule proxies key (.request t r) = true := hkey
        rw [if_pos hcounted] at hroom
        obtain rfl : rule.key proxies r = key := beq_iff_eq.mp hkey
        obtain rfl : t = now := he
        have hfits : (taken + 1) * quota.step ≤ burst * quota.step :=
          Nat.mul_le_mul_right _ (by omega)
        rw [Nat.add_mul, Nat.one_mul] at hfits
        rcases hg.check_cases t r with ⟨-, hanswer, -⟩ | ⟨hearly, -, -⟩
        · exact hanswer
        · omega
      | prune t => cases hj
    · have hnext : (g.after e).limiter.due key now ≤
          now - made + (taken + g.admitted key e) * quota.step := by
        have hstep := hg.due_after key e
        rw [he] at hstep
        rw [hstep, Nat.add_mul]
        omega
      refine ih (hg.after e) (fun f hf => hnow f (List.mem_cons_of_mem _ hf)) hnext ?_ j hj hkey
      cases hasks : e.asks rule proxies key
      · rw [hasks] at hasked hroom
        simp only [Bool.toNat_false, Bool.false_eq_true, if_false] at hasked hroom
        omega
      · rw [hasks] at hasked hroom
        simp only [Bool.toNat_true, if_true] at hasked hroom
        omega

end

/-! ## Headline -/

/-- **Headline.**  Of the requests of a key, whatever else the gate is asked and whenever it is
pruned, a window admits at most a burst and one for each step that fits into it; and after a burst
of steps in which none was admitted, a whole burst is admitted at one instant. -/
theorem admissions_of_key {rate burst : UInt32} {rule : KeyRule} {proxies : TrustedProxies}
    {made : Nat} {g : RateGate} (created : RateGate.create rate burst rule proxies made = .ok g)
    {events : List GateEvent} {now : Nat} (ordered : GateEvent.InOrder made events now)
    (key : String) :
    let step := max (Duration.second / rate.toNat) 1
    let atOnce := max burst.toNat 1
    (∀ start width, g.admittedWithin key start (start + width) events ≤ atOnce + width / step) ∧
    ((∀ j ∈ (g.run events).1, j.isAdmitted rule proxies key = true →
        j.now + atOnce * step ≤ now) →
      ∀ more : List GateEvent, (∀ e ∈ more, e.now = now) →
        more.countP (·.asks rule proxies key) ≤ atOnce →
        ∀ j ∈ ((g.run events).2.run more).1, j.asks rule proxies key = true →
          j.answer = none) := by
  intro step atOnce
  have hg := create_obeys created
  have hburst : _ = atOnce * step := Quota.tolerance_add_step rate.toNat burst.toNat
  have hstep : 0 < step := Quota.step_pos rate.toNat burst.toNat
  constructor
  · intro start width
    have hfits : g.admittedWithin key start (start + width) events * step ≤
        width + atOnce * step := by
      rw [← hburst]
      exact hg.admittedWithin_mul_le ordered start width
    calc g.admittedWithin key start (start + width) events
        ≤ (width + atOnce * step) / step := (Nat.le_div_iff_mul_le hstep).mpr hfits
      _ = atOnce + width / step := by
        rw [Nat.add_mul_div_right _ _ hstep, Nat.add_comm]
  · intro idle more hnow hfew
    have hback : ∀ j ∈ (g.run events).1, j.isAdmitted rule proxies key = true →
        j.now + ((Quota.perSecond rate.toNat burst.toNat).tolerance +
          (Quota.perSecond rate.toNat burst.toNat).step) ≤ now := by
      rw [hburst]
      exact idle
    have hstart : g.limiter.due key made ≤ now - made := by
      rw [due_create created, Nat.sub_self]
      exact Nat.zero_le _
    have hdue := hg.due_run_of_idle ordered (Nat.le_refl made) hstart hback
    have hnone : (g.run events).2.limiter.due key now ≤ now - made + 0 * step := by omega
    exact (hg.run events).answer_of_room hnow hburst hnone (by omega)

/-- A burst of three and a fourth request, a prune, one more request as soon as there is room, and
the next burst at the first instant at which there is one. -/
theorem admissions_of_key_of_three :
    let g : RateGate := ⟨2, .path, ⟨[]⟩, ⟨.perSecond 2 3, 100, []⟩⟩
    let a : Request := ⟨"GET", ⟨none, none, "/a", none⟩, [], [], none⟩
    let b : Request := ⟨"GET", ⟨none, none, "/b", none⟩, [], [], none⟩
    let events : List GateEvent := [.request 100 a, .request 100 a, .request 100 b,
      .request 100 a, .request 100 a, .prune 500000100, .request 500000100 a]
    let more : List GateEvent := [.request 2000000100 a, .prune 2000000100,
      .request 2000000100 a, .request 2000000100 b, .request 2000000100 a]
    create 2 3 .path ⟨[]⟩ 100 = .ok g ∧ GateEvent.InOrder 100 events 2000000100 ∧
    g.admittedWithin "/a" 100 (100 + 500000000) events = 4 ∧
    g.admittedWithin "/a" 100 (100 + 500000000) events ≤ 3 + 500000000 / 500000000 ∧
    (∀ j ∈ (g.run events).1, j.isAdmitted .path ⟨[]⟩ "/a" = true →
      j.now + 3 * 500000000 ≤ 2000000100) ∧
    (∀ e ∈ more, e.now = 2000000100) ∧ more.countP (·.asks .path ⟨[]⟩ "/a") ≤ 3 ∧
    ∀ j ∈ ((g.run events).2.run more).1, j.asks .path ⟨[]⟩ "/a" = true → j.answer = none := by
  intro g a b events more
  have created : create 2 3 .path ⟨[]⟩ 100 = .ok g := rfl
  have ordered : GateEvent.InOrder 100 events 2000000100 := by decide
  have idle : ∀ j ∈ (g.run events).1, j.isAdmitted .path ⟨[]⟩ "/a" = true →
      j.now + 3 * 500000000 ≤ 2000000100 := by decide
  have hnow : ∀ e ∈ more, e.now = 2000000100 := by decide
  have hfew : more.countP (·.asks .path ⟨[]⟩ "/a") ≤ 3 := by decide
  obtain ⟨hmost, hleast⟩ := admissions_of_key created ordered "/a"
  exact ⟨created, ordered, by decide, hmost 100 500000000, idle, hnow, hfew,
    hleast idle more hnow hfew⟩

end RateGate

end Turnstile

import Mathlib.Data.Finset.Card
import Turnstile.Proofs.RateLimit.Admissions
/-!
  How many keys a rate gate remembers.

  1. **Keys** (`Limiter.keys`) — no key is remembered twice, so what is tracked is a set of keys,
     and bounded by the size of every set that contains it (`tracked_le_card`).

  2. **Backed** — every remembered arrival time was set by a request of the key that was passed on,
     and lies at most the tolerance and a step after it.  Each event keeps that (`backed_after`),
     whatever the clock does; a prune forgets what lies a step back, so after it every key has been
     passed on in the time of a burst and one step more (`Backed.recent`).

  3. **Refusals** (`mem_keys_of_refused`) — a key that is not remembered is due at once, so a
     request that is refused cannot be one of an unknown key.

  4. **Headline** (`remembered_keys_are_recent`).
-/

namespace Turnstile

namespace Limiter

/-! ## Keys -/

/-- The keys that are remembered. -/
def keys (l : Limiter) : List String := l.arrivals.map (·.1)

theorem mem_keys_iff {l : Limiter} {key : String} :
    key ∈ l.keys ↔ ∃ arrival, l.arrival? key = some arrival := by
  unfold keys arrival?
  rw [← Option.isSome_iff_exists, Option.isSome_map, List.find?_isSome, List.mem_map]
  simp only [beq_iff_eq]

/-- What is tracked is no more than any set that holds the keys. -/
theorem tracked_le_card {l : Limiter} (hl : l.Distinct) {known : Finset String}
    (h : ∀ key ∈ l.keys, key ∈ known) : l.tracked ≤ known.card :=
  calc l.tracked = l.keys.length := (List.length_map _).symm
    _ = l.keys.toFinset.card := (List.toFinset_card_of_nodup hl).symm
    _ ≤ known.card := Finset.card_le_card fun key hkey => h key (List.mem_toFinset.mp hkey)

end Limiter

/-- The key of a request, if it is one. -/
def GateEvent.key? (rule : KeyRule) (proxies : TrustedProxies) : GateEvent → Option String
  | request _ r => some (rule.key proxies r)
  | prune _ => none

/-- The keys that some events ask for. -/
def GateEvent.keysAsked (rule : KeyRule) (proxies : TrustedProxies) (events : List GateEvent) :
    Finset String :=
  (events.filterMap (GateEvent.key? rule proxies)).toFinset

/-- The keys of which a request was passed on less than `span` before `now`. -/
def Judged.keysPassedOn (rule : KeyRule) (proxies : TrustedProxies) (now span : Nat)
    (judged : List Judged) : Finset String :=
  ((judged.filter fun j => j.answer.isNone && decide (now < j.now + span)).map fun j =>
    rule.key proxies j.request).toFinset

theorem Judged.mem_keysPassedOn {rule : KeyRule} {proxies : TrustedProxies} {now span : Nat}
    {judged : List Judged} {j : Judged} {key : String} (hj : j ∈ judged)
    (hadmitted : j.isAdmitted rule proxies key = true) (hlate : now < j.now + span) :
    key ∈ keysPassedOn rule proxies now span judged := by
  unfold isAdmitted asks at hadmitted
  rw [Bool.and_eq_true, beq_iff_eq] at hadmitted
  obtain ⟨hkey, hpassed⟩ := hadmitted
  refine List.mem_toFinset.mpr (List.mem_map.mpr ⟨j, List.mem_filter.mpr ⟨hj, ?_⟩, hkey⟩)
  rw [hpassed, decide_eq_true hlate, Bool.and_self]

namespace RateGate

/-- What is judged was asked. -/
theorem request_mem_of_mem_run {g : RateGate} {events : List GateEvent} {j : Judged}
    (hj : j ∈ (g.run events).1) : .request j.now j.request ∈ events := by
  induction events generalizing g with
  | nil => cases hj
  | cons e rest ih =>
    rw [run_cons] at hj
    rcases List.mem_append.mp hj with hj | hj
    · cases e with
      | request now r =>
        obtain rfl := List.mem_singleton.mp hj
        exact List.mem_cons_self
      | prune now => cases hj
    · exact List.mem_cons_of_mem _ (ih hj)

theorem start_le_of_mem_run {g : RateGate} {events : List GateEvent} {start stop : Nat}
    (ordered : GateEvent.InOrder start events stop) {j : Judged} (hj : j ∈ (g.run events).1) :
    start ≤ j.now := by
  refine (List.pairwise_cons.mp ordered).1 j.now (List.mem_append_left _ ?_)
  exact List.mem_map.mpr ⟨_, request_mem_of_mem_run hj, rfl⟩

/-! ## Backed -/

/-- **Backed**: every remembered arrival time goes back to a request that was passed on. -/
def Backed (rule : KeyRule) (proxies : TrustedProxies) (quota : Quota) (made : Nat)
    (seen : List Judged) (g : RateGate) : Prop :=
  ∀ key arrival, g.limiter.arrival? key = some arrival →
    ∃ j ∈ seen, j.isAdmitted rule proxies key = true ∧
      arrival ≤ j.now - made + quota.tolerance + quota.step

section

variable {rule : KeyRule} {proxies : TrustedProxies} {quota : Quota} {made : Nat}
  {seen : List Judged} {g : RateGate}

/-- What is judged later takes no backing away. -/
theorem Backed.append (backed : Backed rule proxies quota made seen g) (more : List Judged) :
    Backed rule proxies quota made (seen ++ more) g := by
  intro key arrival harrival
  obtain ⟨j, hj, hbacks⟩ := backed key arrival harrival
  exact ⟨j, List.mem_append_left _ hj, hbacks⟩

/-- **The step**: an admission backs the arrival time that it sets, and everything else sets
none. -/
theorem Obeys.backed_after (hg : Obeys rule proxies quota made g)
    (backed : Backed rule proxies quota made seen g) (e : GateEvent) :
    Backed rule proxies quota made (seen ++ g.judged e) (g.after e) := by
  have hbefore := backed.append (g.judged e)
  intro key arrival harrival
  cases e with
  | request now r =>
    rcases hg.check_cases now r with ⟨hwithin, hanswer, hnext⟩ | ⟨-, hsame, -⟩
    · have hremembered : (g.limiter.remember (rule.key proxies r)
          (g.limiter.due (rule.key proxies r) now + quota.step)).arrival? key = some arrival := by
        have hafter : (g.check now r).2.limiter.arrival? key = some arrival := harrival
        rwa [hnext] at hafter
      by_cases hkey : rule.key proxies r = key
      · -- admitted at most the tolerance early, and set one step after what was due
        subst hkey
        rw [Limiter.arrival?_remember_self] at hremembered
        obtain rfl := Option.some.inj hremembered
        refine ⟨⟨now, r, g.answer now r⟩, List.mem_append_right _ List.mem_cons_self, ?_, ?_⟩
        · unfold Judged.isAdmitted Judged.asks
          rw [hanswer, beq_self_eq_true]
          rfl
        · dsimp only
          omega
      · rw [Limiter.arrival?_remember_other _ (Ne.symm hkey)] at hremembered
        exact hbefore key arrival hremembered
    · have hafter : (g.check now r).2.limiter.arrival? key = some arrival := harrival
      rw [hsame] at hafter
      exact hbefore key arrival hafter
  | prune now =>
    have hkept : (g.limiter.prune now).arrival? key = some arrival := harrival
    rw [Limiter.arrival?_prune hg.distinct, Option.filter_eq_some_iff] at hkept
    exact hbefore key arrival hkept.1

/-- **The run**, by induction on the events. -/
theorem Obeys.backed_run (hg : Obeys rule proxies quota made g)
    (backed : Backed rule proxies quota made seen g) (events : List GateEvent) :
    Backed rule proxies quota made (seen ++ (g.run events).1) (g.run events).2 := by
  induction events generalizing g seen with
  | nil =>
    show Backed rule proxies quota made (seen ++ []) g
    rwa [List.append_nil]
  | cons e rest ih =>
    rw [run_cons, ← List.append_assoc]
    exact ih (hg.after e) (hg.backed_after backed e)

/-- **After a prune** a key is remembered only if a request of it was passed on not longer ago than
two steps and the tolerance. -/
theorem Backed.recent (backed : Backed rule proxies quota made seen g)
    (hg : Obeys rule proxies quota made g) (hmade : ∀ j ∈ seen, made ≤ j.now) {now : Nat}
    {key : String} (hkey : key ∈ (g.prune now).limiter.keys) :
    ∃ j ∈ seen, j.isAdmitted rule proxies key = true ∧
      now < j.now + (quota.tolerance + quota.step + quota.step) := by
  obtain ⟨arrival, hkept⟩ := Limiter.mem_keys_iff.mp hkey
  have hfiltered : (g.limiter.prune now).arrival? key = some arrival := hkept
  rw [Limiter.arrival?_prune hg.distinct, Option.filter_eq_some_iff, hg.made_eq, hg.quota_eq,
    decide_eq_true_eq] at hfiltered
  obtain ⟨hbefore, hlate⟩ := hfiltered
  obtain ⟨j, hj, hadmitted, hle⟩ := backed key arrival hbefore
  have hfirst := hmade j hj
  exact ⟨j, hj, hadmitted, by omega⟩

/-! ## Refusals -/

/-- A request is refused only if its key is remembered, and then the gate stays as it is. -/
theorem Obeys.mem_keys_of_refused (hg : Obeys rule proxies quota made g) {now : Nat} {r : Request}
    {answer : Response} (refused : g.answer now r = some answer) :
    rule.key proxies r ∈ g.limiter.keys ∧ (g.check now r).2 = g := by
  rcases hg.check_cases now r with ⟨-, hpassed, -⟩ | ⟨hearly, hsame, -⟩
  · rw [hpassed] at refused
    cases refused
  · rw [hsame]
    refine ⟨Limiter.mem_keys_iff.mpr ?_, rfl⟩
    cases harrival : g.limiter.arrival? (rule.key proxies r) with
    | some arrival => exact ⟨arrival, rfl⟩
    | none =>
      -- a new key is due now
      have hdue : g.limiter.due (rule.key proxies r) now = now - made := by
        unfold Limiter.due
        rw [harrival, hg.made_eq]
        exact Nat.zero_max _
      omega

end

/-! ## Headline -/

/-- **Headline.**  After a prune, every key that is remembered was passed on in the time of a burst
and one step before, so no more keys are tracked than were passed on in that time.  A refused
request finds its key remembered and leaves the gate as it is.  And at any time, no more keys are
tracked than were asked for. -/
theorem remembered_keys_are_recent {rate burst : UInt32} {rule : KeyRule} {proxies : TrustedProxies}
    {made : Nat} {g : RateGate} (created : RateGate.create rate burst rule proxies made = .ok g)
    {events : List GateEvent} {now : Nat} (ordered : GateEvent.InOrder made events now) :
    let step := max (Duration.second / rate.toNat) 1
    let span := (max burst.toNat 1 + 1) * step
    let run := g.run events
    (∀ key ∈ (run.2.prune now).limiter.keys,
      ∃ j ∈ run.1, j.isAdmitted rule proxies key = true ∧ now < j.now + span) ∧
    (run.2.prune now).limiter.tracked ≤ (Judged.keysPassedOn rule proxies now span run.1).card ∧
    (∀ r answer, run.2.answer now r = some answer →
      rule.key proxies r ∈ run.2.limiter.keys ∧ (run.2.check now r).2 = run.2) ∧
    run.2.limiter.tracked ≤ (GateEvent.keysAsked rule proxies events).card := by
  intro step span run
  have hcreated := create_obeys created
  have hrun : Obeys rule proxies (.perSecond rate.toNat burst.toNat) made run.2 :=
    hcreated.run events
  have hspan : (Quota.perSecond rate.toNat burst.toNat).tolerance +
      (Quota.perSecond rate.toNat burst.toNat).step +
        (Quota.perSecond rate.toNat burst.toNat).step = span := by
    rw [Quota.tolerance_add_step, ← Nat.succ_mul]
    rfl
  have hbacked : Backed rule proxies (.perSecond rate.toNat burst.toNat) made run.1 run.2 := by
    have hnothing : Backed rule proxies (.perSecond rate.toNat burst.toNat) made [] g := by
      intro key arrival harrival
      obtain ⟨-, rfl⟩ := create_cases created
      cases harrival
    exact hcreated.backed_run hnothing events
  have hrecent : ∀ key ∈ (run.2.prune now).limiter.keys,
      ∃ j ∈ run.1, j.isAdmitted rule proxies key = true ∧ now < j.now + span := by
    intro key hkey
    rw [← hspan]
    exact hbacked.recent hrun (fun j hj => start_le_of_mem_run ordered hj) hkey
  refine ⟨hrecent, ?_, fun r answer refused => hrun.mem_keys_of_refused refused, ?_⟩
  · refine Limiter.tracked_le_card (Limiter.prune_distinct hrun.distinct now) fun key hkey => ?_
    obtain ⟨j, hj, hadmitted, hlate⟩ := hrecent key hkey
    exact Judged.mem_keysPassedOn hj hadmitted hlate
  · refine Limiter.tracked_le_card hrun.distinct fun key hkey => ?_
    obtain ⟨arrival, harrival⟩ := Limiter.mem_keys_iff.mp hkey
    obtain ⟨j, hj, hadmitted, -⟩ := hbacked key arrival harrival
    unfold Judged.isAdmitted Judged.asks at hadmitted
    rw [Bool.and_eq_true, beq_iff_eq] at hadmitted
    refine List.mem_toFinset.mpr (List.mem_filterMap.mpr ⟨_, request_mem_of_mem_run hj, ?_⟩)
    exact congrArg some hadmitted.1

/-- At the last instant at which the key of a spent burst is remembered, a key that was passed on a
little earlier is forgotten. -/
theorem remembered_keys_are_recent_of_two :
    let g : RateGate := ⟨2, .path, ⟨[]⟩, ⟨.perSecond 2 2, 100, []⟩⟩
    let a : Request := ⟨"GET", ⟨none, none, "/a", none⟩, [], [], none⟩
    let b : Request := ⟨"GET", ⟨none, none, "/b", none⟩, [], [], none⟩
    let events : List GateEvent := [.request 100 b, .prune 150, .request 200 a, .request 200 a,
      .request 200 a]
    let run := g.run events
    create 2 2 .path ⟨[]⟩ 100 = .ok g ∧ GateEvent.InOrder 100 events 1500000199 ∧
    run.2.limiter.tracked = 2 ∧ (run.2.prune 1500000199).limiter.keys = ["/a"] ∧
    (∃ j ∈ run.1, j.isAdmitted .path ⟨[]⟩ "/a" = true ∧ 1500000199 < j.now + 3 * 500000000) ∧
    (run.2.prune 1500000199).limiter.tracked ≤
      (Judged.keysPassedOn .path ⟨[]⟩ 1500000199 1500000000 run.1).card ∧
    (Judged.keysPassedOn .path ⟨[]⟩ 1500000199 1500000000 run.1).card = 1 ∧
    run.2.limiter.tracked ≤ (GateEvent.keysAsked .path ⟨[]⟩ events).card := by
  intro g a b events run
  have created : create 2 2 .path ⟨[]⟩ 100 = .ok g := rfl
  have ordered : GateEvent.InOrder 100 events 1500000199 := by decide
  have hkeys : (run.2.prune 1500000199).limiter.keys = ["/a"] := by decide
  obtain ⟨hrecent, htracked, -, hasked⟩ := remembered_keys_are_recent created ordered
  have hmem : "/a" ∈ (run.2.prune 1500000199).limiter.keys := by
    rw [hkeys]
    exact List.mem_cons_self
  exact ⟨created, ordered, by decide, hkeys, hrecent "/a" hmem, htracked, by decide, hasked⟩

end RateGate

end Turnstile

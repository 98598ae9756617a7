import Turnstile.Proofs.Gateway.Build
import Turnstile.Proofs.Settings.Check
/-!
  Which settings make no bucket.

  Tokens that are added over no time at all would make a bucket that never runs dry.  Settings that
  ask for this are refused at three places: where a bucket is made, where the throttle of a route is
  set up, and where settings are checked before anything is set up.

  1. **No time at all** (`ThrottleSettings.Timeless`, `interval_eq_zero_iff`) — an interval lasts in
     every unit, unless it is zero of them.

  2. **One rule, three places** (`create_eq_error_iff`, `Build.throttle_run_eq_error_iff`,
     `Settings.checkThrottle_eq_error_iff`, `Settings.check_eq_badThrottle_iff`) — each place refuses
     what `Bucket.create` refuses, and nothing else; what the check finds elsewhere comes first.

  3. **Headline** (`refused_iff_of_every_entry`) — a bucket without capacity is made before anyone
     looks at the interval, so refused is what is timeless and has capacity.
     `timeless_without_capacity` is the case that goes through.
-/

namespace Turnstile

/-! ## No time at all -/

/-- **Timeless**: tokens are added, and the interval between two refills has no length. -/
structure ThrottleSettings.Timeless (s : ThrottleSettings) : Prop where
  refillTokens : 0 < s.refillTokens
  interval : s.interval = 0

theorem ThrottleSettings.interval_eq_zero_iff {s : ThrottleSettings} :
    s.interval = 0 ↔ s.refillPeriod = 0 := by
  constructor
  · intro h
    rcases Nat.eq_zero_or_pos s.refillPeriod.toNat with hzero | hpos
    · exact UInt64.toNat_inj.mp hzero
    · exact absurd h (Nat.ne_of_gt (s.refillUnit.span_pos hpos))
  · intro h
    unfold interval
    rw [h]
    cases s.refillUnit <;> rfl

/-! ## Where a bucket is made -/

namespace Bucket

/-- A bucket without capacity is never refused; of the others, one that is timeless. -/
theorem create_eq_error_iff {s : ThrottleSettings} {now : Nat} {e : ThrottleError} :
    create s now = .error e ↔ e = .zeroPeriod ∧ s.Timeless ∧ 0 < s.capacity := by
  have hpos : ∀ w : UInt32, 0 < w ↔ w ≠ 0 := fun w => UInt32.pos_iff_ne_zero
  unfold create
  by_cases hidle : s.capacity = 0 ∨ s.refillTokens = 0
  · rw [if_pos hidle]
    refine ⟨fun h => (nomatch h), fun ⟨_, ht, hcapacity⟩ => ?_⟩
    rcases hidle with h | h
    · exact absurd h ((hpos _).mp hcapacity)
    · exact absurd h ((hpos _).mp ht.refillTokens)
  · obtain ⟨hcapacity, hrefill⟩ := not_or.mp hidle
    rw [if_neg hidle]
    by_cases hzero : s.interval = 0
    · rw [if_pos hzero]
      cases e
      exact ⟨fun _ => ⟨rfl, ⟨(hpos _).mpr hrefill, hzero⟩, (hpos _).mpr hcapacity⟩, fun _ => rfl⟩
    · rw [if_neg hzero]
      exact ⟨fun h => (nomatch h), fun ⟨_, ht, _⟩ => absurd ht.interval hzero⟩

end Bucket

/-! ## Where a route gets its throttle -/

namespace Build

variable {ε α : Type} {problem : ε → BuildProblem}

theorem run_ofExcept (x : Except ε α) (j : Journal) :
    (ofExcept problem x).run j =
      match x with
      | .ok a => (.ok a, j)
      | .error e => (.error (problem e), j) := by
  cases x <;> rfl

/-- The throttle of a route fails with its bucket, and then nothing has been written down. -/
theorem throttle_run_eq_error_iff {route path : String} {s : ThrottleSettings} {now : Nat}
    {j after : Journal} {p : BuildProblem} :
    (throttle route path s now).run j = (.error p, after) ↔
      after = j ∧ ∃ e, Bucket.create s now = .error e ∧ p = .badThrottle path e := by
  unfold throttle
  rw [run_bind, run_ofExcept]
  cases Bucket.create s now with
  | error e =>
    constructor
    · intro h
      cases h
      exact ⟨rfl, e, rfl, rfl⟩
    · rintro ⟨rfl, _, he, rfl⟩
      cases he
      rfl
  | ok b =>
    -- a bucket that was made is logged and handed on
    refine ⟨fun h => ?_, fun ⟨_, _, he, _⟩ => (nomatch he)⟩
    cases h

end Build

/-! ## Where settings are checked -/

namespace Settings

theorem checkThrottle_eq_error_iff {s : ThrottleSettings} {p : SettingProblem} :
    checkThrottle s = .error p ↔ ∃ e, Bucket.create s 0 = .error e ∧ p = .badThrottle e := by
  unfold checkThrottle
  cases Bucket.create s 0 with
  | error e =>
    constructor
    · intro h
      cases h
      exact ⟨e, rfl, rfl⟩
    · rintro ⟨_, he, rfl⟩
      cases he
      rfl
  | ok b => exact ⟨fun h => (nomatch h), fun ⟨_, he, _⟩ => (nomatch he)⟩

/-- A step with problems of its own, and the rest: a throttle that cannot be set up is found by the
rest. -/
theorem bind_eq_badThrottle_iff {x : Except SettingProblem Unit}
    {f : Unit → Except SettingProblem Unit} {e : ThrottleError}
    (own : ∀ e', x ≠ .error (.badThrottle e')) :
    (x >>= f) = .error (.badThrottle e) ↔ x = .ok () ∧ f () = .error (.badThrottle e) := by
  cases x with
  | error p =>
    refine ⟨fun h => ?_, fun h => (nomatch h.1)⟩
    injection h with h
    exact absurd (congrArg Except.error h) (own e)
  | ok a => exact ⟨fun h => ⟨rfl, h⟩, fun h => h.2⟩

theorem checkUrl_ne_badThrottle (name value : String) (e : ThrottleError) :
    checkUrl name value ≠ .error (.badThrottle e) := by
  unfold checkUrl
  split
  · exact nofun
  · split <;> exact nofun

theorem require_ne_badThrottle {holds : Bool} {p : SettingProblem}
    (other : ∀ e, p ≠ .badThrottle e) (e : ThrottleError) :
    require holds p ≠ .error (.badThrottle e) := by
  unfold require
  split
  · exact nofun
  · intro h
    injection h with h
    exact other e h

/-- The throttle is looked at last: the check finds fault with it if it finds none with the same
settings and another throttle. -/
theorem check_eq_badThrottle_iff {given : Settings} {e : ThrottleError} :
    given.check = .error (.badThrottle e) ↔
      ({ given with throttle := .standard } : Settings).check = .ok () ∧
      checkThrottle given.throttle = .error (.badThrottle e) := by
  have hurl := checkUrl_ne_badThrottle
  have hzero : ∀ (holds : Bool) (name : String) (e' : ThrottleError),
      require holds (.zero name) ≠ .error (.badThrottle e') :=
    fun _ _ => require_ne_badThrottle nofun
  have hname : ∀ (holds : Bool) (name : String) (e' : ThrottleError),
      require holds (.badGatewayName name) ≠ .error (.badThrottle e') :=
    fun _ _ => require_ne_badThrottle nofun
  rw [check_eq_ok_iff]
  unfold check
  simp only [bind_eq_badThrottle_iff (hurl _ _), bind_eq_badThrottle_iff (hzero _ _),
    bind_eq_badThrottle_iff (hname _ _), checkUrl_eq_ok_iff, require_eq_ok_iff]
  constructor
  · rintro ⟨hmain, htiming, hdemo, htimeout, hbody, hrate, hgateway, hthrottle⟩
    exact ⟨⟨hmain, htiming, hdemo, of_decide_eq_true htimeout, of_decide_eq_true hbody,
      of_decide_eq_true hrate, hgateway, _, rfl⟩, hthrottle⟩
  · rintro ⟨h, hthrottle⟩
    exact ⟨h.mainUrl, h.timingUrl, h.demoUrl, decide_eq_true h.timeout, decide_eq_true h.maxBody,
      decide_eq_true h.rate, h.gatewayName, hthrottle⟩

end Settings

/-! ## Headline -/

/-- **Headline.**  Whether the interval is zero is a matter of the number and not of the unit.
Settings are refused, at each of the places and for this reason only, exactly if they are timeless
and have capacity; a route that is refused its throttle leaves no trace, and the check comes to the
throttle if it has found nothing else. -/
theorem refused_iff_of_every_entry (s : ThrottleSettings) :
    (s.interval = 0 ↔ s.refillPeriod = 0) ∧
    (∀ now e, Bucket.create s now = .error e ↔
      e = .zeroPeriod ∧ s.Timeless ∧ 0 < s.capacity) ∧
    (∀ route path now j after p, (Build.throttle route path s now).run j = (.error p, after) ↔
      (p = .badThrottle path .zeroPeriod ∧ after = j) ∧ s.Timeless ∧ 0 < s.capacity) ∧
    (∀ p, Settings.checkThrottle s = .error p ↔
      p = .badThrottle .zeroPeriod ∧ s.Timeless ∧ 0 < s.capacity) ∧
    ∀ (given : Settings) (e : ThrottleError),
      ({ given with throttle := s } : Settings).check = .error (.badThrottle e) ↔
        (e = .zeroPeriod ∧ ({ given with throttle := .standard } : Settings).check = .ok ()) ∧
        s.Timeless ∧ 0 < s.capacity := by
  have hcheck : ∀ p, Settings.checkThrottle s = .error p ↔
      p = .badThrottle .zeroPeriod ∧ s.Timeless ∧ 0 < s.capacity := by
    intro p
    rw [Settings.checkThrottle_eq_error_iff]
    constructor
    · rintro ⟨e, he, rfl⟩
      obtain ⟨rfl, h⟩ := Bucket.create_eq_error_iff.mp he
      exact ⟨rfl, h⟩
    · rintro ⟨rfl, h⟩
      exact ⟨_, Bucket.create_eq_error_iff.mpr ⟨rfl, h⟩, rfl⟩
  refine ⟨ThrottleSettings.interval_eq_zero_iff, fun _ _ => Bucket.create_eq_error_iff, ?_, hcheck,
    ?_⟩
  · intro route path now j after p
    rw [Build.throttle_run_eq_error_iff]
    constructor
    · rintro ⟨rfl, e, he, rfl⟩
      obtain ⟨rfl, h⟩ := Bucket.create_eq_error_iff.mp he
      exact ⟨⟨rfl, rfl⟩, h⟩
    · rintro ⟨⟨rfl, rfl⟩, h⟩
      exact ⟨rfl, _, Bucket.create_eq_error_iff.mpr ⟨rfl, h⟩, rfl⟩
  · intro given e
    rw [Settings.check_eq_badThrottle_iff, hcheck]
    constructor
    · rintro ⟨hrest, he, h⟩
      cases he
      exact ⟨⟨rfl, hrest⟩, h⟩
    · rintro ⟨⟨rfl, hrest⟩, h⟩
      exact ⟨hrest, rfl, h⟩

/-- **Timeless, and let through**: tokens are added every zero seconds to a bucket that can hold
none, and all the places take the settings, each in its own way. -/
theorem timeless_without_capacity :
    let s : ThrottleSettings := ⟨0, 1, 0, .seconds⟩
    s.Timeless ∧
    Bucket.create s 0 = .ok ⟨0, 0, .never⟩ ∧
    (∃ after, (Build.throttle "api" "/api" s 0).run ⟨[], []⟩ =
      (.ok (.throttle "api" ⟨0, 0, .never⟩), after)) ∧
    Settings.checkThrottle s = .ok () ∧
    ({ Settings.standard with throttle := s } : Settings).check = .ok () ∧
    ¬ ∀ (s : ThrottleSettings) (now : Nat),
      Bucket.create s now = .error .zeroPeriod ↔ 0 < s.refillTokens ∧ s.interval = 0 := by
  have hcheck : ({ Settings.standard with throttle := ⟨0, 1, 0, .seconds⟩ } : Settings).check =
      .ok () := by rfl
  intro s
  have htimeless : s.Timeless := ⟨by decide, by decide⟩
  have hmade : Bucket.create s 0 = .ok ⟨0, 0, .never⟩ := rfl
  refine ⟨htimeless, hmade, ⟨_, rfl⟩, rfl, hcheck, fun h => ?_⟩
  have hrefused := (h s 0).mpr ⟨htimeless.refillTokens, htimeless.interval⟩
  rw [hmade] at hrefused
  cases hrefused

end Turnstile

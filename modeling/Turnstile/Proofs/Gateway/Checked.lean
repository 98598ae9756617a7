import Turnstile.Proofs.Bucket.Refusal
/-!
  Settings that pass the check can be set up.

  The check and the setup look at the same settings at two times, each in its own way: the check
  reads three destinations and asks for their scheme, the setup makes six of them; the check makes a
  bucket at time zero, the setup makes one when it runs.

  1. **Setting up, surely** (`Build.Surely`) — where every step comes to something, whatever has
     been logged before, so does the whole.  What one step comes to is what the next one gets
     (`Surely.bind`).

  2. **Parts are enough** (`build_surely`) — if the parts of a gateway can be made from settings, the
     setup comes to the gateway that is put together from them.  This is the other half of
     `build_yields`.

  3. **Headline** (`build_of_check`) — from sound settings every part can be made.
-/

namespace Turnstile

/-! ## Setting up, surely -/

namespace Build

/-- Every run of `b` comes to `a`. -/
def Surely {α : Type} (b : Build α) (a : α) : Prop :=
  ∀ j : Journal, ∃ after : Journal, b.run j = (.ok a, after)

/-- **A step, and the rest**, which goes on with what came of the step. -/
theorem Surely.bind {α β : Type} {x : Build α} {f : α → Build β} {a : α} {b : β}
    (hx : Surely x a) (hf : Surely (f a) b) : Surely (x >>= f) b := by
  intro j
  obtain ⟨between, hbetween⟩ := hx j
  obtain ⟨after, hafter⟩ := hf between
  refine ⟨after, ?_⟩
  rw [run_bind, hbetween]
  exact hafter

theorem Surely.pure {α : Type} (a : α) : Surely (pure a) a := fun j => ⟨j, rfl⟩

/-- Something that is done to the journal. -/
theorem Surely.modify (f : Journal → Journal) : Surely (modify f) () := fun j => ⟨f j, rfl⟩

theorem Surely.log (level : LogLevel) (target message : String)
    (fields : List (String × LogValue)) : Surely (log level target message fields) () :=
  .modify _

theorem Surely.ofExcept {ε α : Type} {problem : ε → BuildProblem} {x : Except ε α} {a : α}
    (h : x = .ok a) : Surely (ofExcept problem x) a := by
  rw [h]
  exact .pure a

/-- A step for each of some values. -/
theorem Surely.forIn {α : Type} {f : α → Build Unit} (h : ∀ a, Surely (f a) ()) (xs : List α) :
    Surely (forIn xs () fun a _ => do f a; Pure.pure (ForInStep.yield ())) () := by
  induction xs with
  | nil => exact .pure ()
  | cons x xs ih =>
    rw [List.forIn_cons]
    refine ((h x).bind (.pure (ForInStep.yield ()))).bind ?_
    exact ih

theorem Surely.throttle {route path : String} {s : ThrottleSettings} {now : Nat} {b : Bucket}
    (h : Bucket.create s now = .ok b) : Surely (throttle route path s now) (.throttle route b) :=
  (Surely.ofExcept h).bind ((Surely.log _ _ _ _).bind (.pure _))

theorem Surely.trustedProxies (texts : List String) :
    Surely (trustedProxies texts) (.ofTexts texts) := by
  refine (Surely.forIn (fun text => .log _ _ _ _) _).bind ?_
  dsimp only
  split
  · exact (Surely.log _ _ _ _).bind (.pure _)
  · exact .pure _

theorem Surely.rateGate {s : Settings} {proxies : TrustedProxies} {now : Nat} {gate : RateGate}
    (h : RateGate.create s.rate s.burst s.keyRule proxies now = .ok gate) :
    Surely (rateGate s proxies now) (.rateGate gate) :=
  (Surely.ofExcept h).bind ((Surely.log _ _ _ _).bind (.pure _))

theorem Surely.startPruning (interval : Nat) : Surely (startPruning interval) () := by
  unfold Build.startPruning
  dsimp only
  split
  · exact .log _ _ _ _
  · exact (Surely.modify _).bind (.log _ _ _ _)

end Build

namespace Gateway

/-! ## Parts are enough -/

/-- **Put together from parts**: if there are parts, the setup comes to the gateway of them. -/
theorem build_surely {s : Settings} {now : Nat} (p : Parts s now) :
    (build s now).Surely p.gateway := by
  unfold build
  rw [p.stamp_eq]
  refine (Build.Surely.pure p.stamp).bind ?_
  refine (Build.Surely.throttle p.apiBucket_eq).bind ?_
  refine (Build.Surely.log _ _ _ _).bind ?_
  refine (Build.Surely.ofExcept p.api_eq).bind ?_
  refine (Build.Surely.trustedProxies _).bind ?_
  refine (Build.Surely.rateGate p.gate_eq).bind ?_
  refine (Build.Surely.startPruning _).bind ?_
  refine (Build.Surely.log _ _ _ _).bind ?_
  refine (Build.Surely.ofExcept p.rate_eq).bind ?_
  refine (Build.Surely.ofExcept p.timing_eq).bind ?_
  refine (Build.Surely.ofExcept p.png_eq).bind ?_
  refine (Build.Surely.ofExcept p.webp_eq).bind ?_
  refine (Build.Surely.throttle p.getBucket_eq).bind ?_
  refine (Build.Surely.ofExcept p.get_eq).bind ?_
  exact .pure p.gateway

end Gateway

/-! ## Sound settings -/

/-- When a bucket is made does not matter to whether it can be. -/
theorem Bucket.exists_create {s : ThrottleSettings} {b : Bucket} {now : Nat}
    (made : create s now = .ok b) (later : Nat) : ∃ b', create s later = .ok b' := by
  cases hlater : create s later with
  | ok b' => exact ⟨b', rfl⟩
  | error e =>
    -- why settings are refused says nothing about the time
    have hrefused : create s now = .error e :=
      create_eq_error_iff.mpr (create_eq_error_iff.mp hlater)
    rw [made] at hrefused
    cases hrefused

theorem RateGate.exists_create {rate : UInt32} (h : rate ≠ 0) (burst : UInt32) (rule : KeyRule)
    (proxies : TrustedProxies) (now : Nat) :
    ∃ gate, create rate burst rule proxies now = .ok gate := by
  unfold create
  rw [if_neg h]
  exact ⟨_, rfl⟩

theorem Destination.exists_create {url : String} (h : Settings.IsHttpUrl url) (name : String)
    (strip : Nat) : ∃ d, create name url strip = .ok d := by
  obtain ⟨base, hbase, -⟩ := h
  unfold create
  rw [hbase]
  exact ⟨_, rfl⟩

/-- Settings with a throttle that lets nothing through. -/
def Settings.closed : Settings :=
  { standard with mainUrl := "https://a.example/v1", throttle := ⟨0, 1, 0, .seconds⟩ }

namespace Gateway

/-- **Every part** can be made from sound settings. -/
theorem nonempty_parts {s : Settings} (h : s.Sound) (now : Nat) : Nonempty (Parts s now) := by
  obtain ⟨stamp, hstamp⟩ := Option.isSome_iff_exists.mp h.gatewayName
  obtain ⟨_, hthrottle⟩ := h.throttle
  obtain ⟨apiBucket, hapiBucket⟩ := Bucket.exists_create hthrottle now
  obtain ⟨gate, hgate⟩ :=
    RateGate.exists_create h.rate s.burst s.keyRule (.ofTexts s.trustedProxies) now
  obtain ⟨getBucket, hgetBucket⟩ := Bucket.exists_create Parts.standard.getBucket_eq now
  obtain ⟨api, hapi⟩ := Destination.exists_create h.mainUrl "api" 1
  obtain ⟨rate, hrate⟩ := Destination.exists_create h.mainUrl "rate" 2
  obtain ⟨timing, htiming⟩ := Destination.exists_create h.timingUrl "timing" 1
  obtain ⟨png, hpng⟩ := Destination.exists_create h.demoUrl "anything_png" 0
  obtain ⟨webp, hwebp⟩ := Destination.exists_create h.demoUrl "image_webp" 0
  obtain ⟨get, hget⟩ := Destination.exists_create h.demoUrl "throttle_get" 0
  exact ⟨⟨stamp, apiBucket, gate, getBucket, api, rate, timing, png, webp, get, hstamp, hapiBucket,
    hgate, hgetBucket, hapi, hrate, htiming, hpng, hwebp, hget⟩⟩

/-- **Headline.**  If settings pass the check, then the gateway can be set up with them at any time,
whatever has been logged before: the setup comes to a gateway put together from parts, all of which
could be made.  So no environment is accepted with which the gateway cannot be set up. -/
theorem build_of_check (s : Settings) (now : Nat) :
    (s.check = .ok () → ∃ p : Parts s now, (build s now).Surely p.gateway) ∧
    (∀ e : Environment, Settings.load e = .ok s →
      ∃ p : Parts s now, (build s now).Surely p.gateway) := by
  have hbuild : s.check = .ok () → ∃ p : Parts s now, (build s now).Surely p.gateway := by
    intro hcheck
    obtain ⟨p⟩ := nonempty_parts (Settings.check_eq_ok_iff.mp hcheck) now
    exact ⟨p, build_surely p⟩
  exact ⟨hbuild, fun e hload => hbuild (Settings.check_of_load hload)⟩

/-- A throttle that lets nothing through, and whose interval may then be zero: checked by itself, and
asked for by an environment. -/
theorem build_of_check_of_closed :
    Settings.closed.check = .ok () ∧
    (∃ p : Parts .closed 7, (build .closed 7).Surely p.gateway) ∧
    Settings.load ⟨[("UPSTREAM_URL", Text.bytes "https://a.example/v1"),
      ("THROTTLE_CAPACITY", Text.bytes "0"),
      ("THROTTLE_REFILL_PERIOD", Text.bytes "0")]⟩ = .ok .closed ∧
    ∃ p : Parts .closed 9, (build .closed 9).Surely p.gateway := by
  have hcheck : Settings.closed.check = .ok () := by rfl
  have hload : Settings.load ⟨[("UPSTREAM_URL", Text.bytes "https://a.example/v1"),
      ("THROTTLE_CAPACITY", Text.bytes "0"),
      ("THROTTLE_REFILL_PERIOD", Text.bytes "0")]⟩ = .ok .closed := by rfl
  exact ⟨hcheck, (build_of_check .closed 7).1 hcheck, hload, (build_of_check .closed 9).2 _ hload⟩

end Gateway

end Turnstile

import Turnstile.Settings.Load
/-!
  What the check of settings asks for.

  1. **One after the other** (`bind_eq_ok_iff`) — a step and the rest succeed exactly if the step
     does and, with what came of it, the rest.

  2. **Sound settings** (`Settings.Sound`, `check_eq_ok_iff`) — the check lets settings through
     exactly if the three destinations are spoken to over HTTP, the numbers that must not be zero
     are not, the name can stand in a header, and the throttle makes a bucket.
-/

namespace Turnstile

/-! ## One after the other -/

theorem bind_eq_ok_iff {ε α β : Type} {x : Except ε α} {f : α → Except ε β} {b : β} :
    (x >>= f) = .ok b ↔ ∃ a, x = .ok a ∧ f a = .ok b := by
  cases x with
  | error e => exact ⟨fun h => (nomatch h), fun ⟨_, h, _⟩ => (nomatch h)⟩
  | ok a =>
    refine ⟨fun h => ⟨a, rfl, h⟩, fun ⟨a', ha, h⟩ => ?_⟩
    injection ha with ha
    rw [ha]
    exact h

namespace Settings

/-! ## The steps of the check -/

/-- Whether a text is the URL of something that is spoken to over HTTP. -/
def IsHttpUrl (text : String) : Prop := ∃ u, Url.parse text = .ok u ∧ Url.isHttp u.scheme = true

theorem checkUrl_eq_ok_iff {name value : String} :
    checkUrl name value = .ok () ↔ IsHttpUrl value := by
  unfold checkUrl IsHttpUrl
  cases Url.parse value with
  | error e => exact ⟨fun h => (nomatch h), fun ⟨_, h, _⟩ => (nomatch h)⟩
  | ok u =>
    dsimp only
    cases hscheme : Url.isHttp u.scheme with
    | true => exact ⟨fun _ => ⟨u, rfl, hscheme⟩, fun _ => rfl⟩
    | false =>
      refine ⟨fun h => (nomatch h), fun ⟨v, hv, hhttp⟩ => ?_⟩
      injection hv with hv
      rw [← hv, hscheme] at hhttp
      cases hhttp

theorem require_eq_ok_iff {holds : Bool} {p : SettingProblem} :
    require holds p = .ok () ↔ holds = true := by
  cases holds with
  | true => exact ⟨fun _ => rfl, fun _ => rfl⟩
  | false => exact ⟨fun h => (nomatch h), fun h => (nomatch h)⟩

theorem checkThrottle_eq_ok_iff {s : ThrottleSettings} :
    checkThrottle s = .ok () ↔ ∃ b, Bucket.create s 0 = .ok b := by
  unfold checkThrottle
  cases Bucket.create s 0 with
  | error e => exact ⟨fun h => (nomatch h), fun ⟨_, h⟩ => (nomatch h)⟩
  | ok b => exact ⟨fun _ => ⟨b, rfl⟩, fun _ => rfl⟩

/-! ## The check -/

/-- **Sound**: what the check asks of settings. -/
structure Sound (s : Settings) : Prop where
  mainUrl : IsHttpUrl s.mainUrl
  timingUrl : IsHttpUrl s.timingUrl
  demoUrl : IsHttpUrl s.demoUrl
  timeout : s.timeout ≠ 0
  maxBody : s.maxBody ≠ 0
  rate : s.rate ≠ 0
  gatewayName : (HeaderValue.ofString? s.gatewayName).isSome = true
  throttle : ∃ b, Bucket.create s.throttle 0 = .ok b

/-- The check lets settings through exactly if they are sound. -/
theorem check_eq_ok_iff {s : Settings} : s.check = .ok () ↔ s.Sound := by
  unfold check
  simp only [bind_eq_ok_iff]
  constructor
  · rintro ⟨⟨⟩, hmain, ⟨⟩, htiming, ⟨⟩, hdemo, ⟨⟩, htimeout, ⟨⟩, hbody, ⟨⟩, hrate, ⟨⟩, hname,
      hthrottle⟩
    exact ⟨checkUrl_eq_ok_iff.mp hmain, checkUrl_eq_ok_iff.mp htiming,
      checkUrl_eq_ok_iff.mp hdemo, of_decide_eq_true (require_eq_ok_iff.mp htimeout),
      of_decide_eq_true (require_eq_ok_iff.mp hbody), of_decide_eq_true (require_eq_ok_iff.mp hrate),
      require_eq_ok_iff.mp hname, checkThrottle_eq_ok_iff.mp hthrottle⟩
  · intro h
    exact ⟨(), checkUrl_eq_ok_iff.mpr h.mainUrl, (), checkUrl_eq_ok_iff.mpr h.timingUrl,
      (), checkUrl_eq_ok_iff.mpr h.demoUrl, (), require_eq_ok_iff.mpr (decide_eq_true h.timeout),
      (), require_eq_ok_iff.mpr (decide_eq_true h.maxBody),
      (), require_eq_ok_iff.mpr (decide_eq_true h.rate),
      (), require_eq_ok_iff.mpr h.gatewayName, checkThrottle_eq_ok_iff.mpr h.throttle⟩

/-- What is loaded has passed the check. -/
theorem check_of_load {e : Environment} {s : Settings} (h : load e = .ok s) :
    s.check = .ok () := by
  obtain ⟨_, -, h⟩ := bind_eq_ok_iff.mp h
  obtain ⟨⟨⟩, hcheck, h⟩ := bind_eq_ok_iff.mp h
  injection h with h
  exact h ▸ hcheck

end Settings

end Turnstile

import Mathlib.Data.Bool.Basic
import Mathlib.Data.List.Forall2
import Turnstile.Proofs.Bucket.Bounds
/-!
  More generous settings admit more.

  1. **Order** (`ThrottleSettings.Within`) — settings lie within others if they hold and add no more
     tokens, over the same interval.

  2. **The invariant** (`Below`) — calls move the current interval by the instants that they bring
     and by nothing else, so two buckets with one interval that get the same calls are always in the
     same one, in whatever order the instants are.  Then the smaller bucket never holds more tokens:
     adding, capping and taking one are all monotone.  A pool is below any bucket that has as many
     tokens, since a bucket never loses tokens but to its calls (`tokens_le_credit`).

  3. **Headline** (`admitted_le_of_within`) — whatever the smaller bucket admits, the other one
     admits at the same call.  That it spends more tokens does not set it back: where it takes one
     and the smaller bucket does not, the smaller one had none.
-/

namespace Turnstile

/-- **Within**: settings that hold and add no more tokens than others, over the same interval. -/
structure ThrottleSettings.Within (s s' : ThrottleSettings) : Prop where
  capacity : s.capacity ≤ s'.capacity
  refillTokens : s.refillTokens ≤ s'.refillTokens
  interval : s.interval = s'.interval

namespace ThrottleSettings.Within

variable {s s' : ThrottleSettings}

theorem capacity_toNat (h : s.Within s') : s.capacity.toNat ≤ s'.capacity.toNat :=
  UInt32.le_iff_toNat_le.mp h.capacity

theorem refillTokens_toNat (h : s.Within s') : s.refillTokens.toNat ≤ s'.refillTokens.toNat :=
  UInt32.le_iff_toNat_le.mp h.refillTokens

end ThrottleSettings.Within

namespace Bucket

variable {s s' : ThrottleSettings} {b b' : Bucket}

/-! ## The invariant -/

/-- **Below**: two buckets of which the first holds no more tokens; both are in the same interval,
unless the first is never refilled. -/
inductive Below (s s' : ThrottleSettings) : Bucket → Bucket → Prop
  | pool {tokens : Nat} {b' : Bucket} (obeys : Obeys s' b') (fewer : tokens ≤ b'.tokens) :
      Below s s' (pool s tokens) b'
  | periodic {tokens tokens' since : Nat} (held : tokens ≤ s.capacity.toNat)
      (held' : tokens' ≤ s'.capacity.toNat) (fewer : tokens ≤ tokens') :
      Below s s' (periodic s tokens since) (periodic s' tokens' since)

theorem Below.fewer (h : Below s s' b b') : b.tokens ≤ b'.tokens := by
  cases h <;> assumption

/-- Settings that never refill make a pool, whatever the interval. -/
theorem create_of_idle (idle : s.capacity.toNat = 0 ∨ s.refillTokens.toNat = 0) (now : Nat) :
    create s now = .ok (pool s s.capacity.toNat) := by
  have hidle : s.capacity = 0 ∨ s.refillTokens = 0 :=
    idle.imp (fun h => UInt32.toNat_inj.mp h) (fun h => UInt32.toNat_inj.mp h)
  unfold create
  rw [if_pos hidle]

/-- A new bucket is full. -/
theorem tokens_of_create {now : Nat} (made : create s now = .ok b) :
    b.tokens = s.capacity.toNat := by
  rcases create_cases made with ⟨rfl, -⟩ | ⟨rfl, -⟩ <;> rfl

/-- **Made together**: buckets made at one time are in one interval. -/
theorem create_below (within : s.Within s') {created : Nat} (made : create s created = .ok b)
    (made' : create s' created = .ok b') : Below s s' b b' := by
  have hcapacity := within.capacity_toNat
  have hrefill := within.refillTokens_toNat
  rcases create_cases made with ⟨rfl, -⟩ | ⟨rfl, -⟩
  · refine .pool (create_obeys made') ?_
    rw [tokens_of_create made']
    exact hcapacity
  · rcases create_cases made' with ⟨rfl, hidle'⟩ | ⟨rfl, -⟩
    · -- if even the larger settings never refill, the smaller ones do not either
      have hidle : s.capacity.toNat = 0 ∨ s.refillTokens.toNat = 0 := by omega
      rw [create_of_idle hidle] at made
      nomatch made
    · exact .periodic (Nat.le_refl _) (Nat.le_refl _) hcapacity

/-- Credit takes nothing away. -/
theorem tokens_le_credit (hb : Obeys s b) (now : Nat) : b.tokens ≤ (b.credit now).tokens := by
  cases hb with
  | pool => exact Nat.le_refl _
  | periodic lasts held =>
    rw [credit_every held]
    exact Nat.le_min.mpr ⟨Nat.le_add_right _ _, held⟩

/-- **The step for time**: the same intervals are credited to both buckets. -/
theorem credit_below (within : s.Within s') (h : Below s s' b b') (now : Nat) :
    Below s s' (b.credit now) (b'.credit now) := by
  cases h with
  | pool obeys fewer =>
    exact .pool (credit_obeys obeys now) (Nat.le_trans fewer (tokens_le_credit obeys now))
  | @periodic tokens tokens' since held held' fewer =>
    have hcapacity := within.capacity_toNat
    have hadded : (now - since) / s.interval * s.refillTokens.toNat ≤
        (now - since) / s'.interval * s'.refillTokens.toNat := by
      rw [within.interval]
      exact Nat.mul_le_mul_left _ within.refillTokens_toNat
    have hnext : nextStart since ((now - since) / s'.interval * s'.interval) now =
        nextStart since ((now - since) / s.interval * s.interval) now := by
      rw [within.interval]
    rw [credit_every held, credit_every held', hnext]
    exact .periodic (Nat.min_le_right _ _) (Nat.min_le_right _ _) (by omega)

/-- **The step for a call**: what the first bucket admits, the second admits too. -/
theorem take_below (within : s.Within s') (h : Below s s' b b') (now : Nat) :
    (b.take now).1 ≤ (b'.take now).1 ∧ Below s s' (b.take now).2 (b'.take now).2 := by
  have hc := credit_below within h now
  rw [take_fst, take_fst, take_snd, take_snd]
  generalize b.credit now = c at hc ⊢
  generalize b'.credit now = c' at hc ⊢
  have hfewer := hc.fewer
  constructor
  · intro hadmitted
    have hpos : 0 < c.tokens := of_decide_eq_true hadmitted
    exact decide_eq_true (Nat.lt_of_lt_of_le hpos hfewer)
  · have hless : c.tokens - 1 ≤ c'.tokens - 1 := Nat.sub_le_sub_right hfewer 1
    cases hc with
    | pool obeys => exact .pool obeys.spend hless
    | periodic held held' =>
      exact .periodic (Nat.le_trans (Nat.sub_le _ _) held) (Nat.le_trans (Nat.sub_le _ _) held')
        hless

/-- **The run**: by induction on the calls, call by call. -/
theorem run_below (within : s.Within s') (h : Below s s' b b') (calls : List Nat) :
    List.Forall₂ (· ≤ ·) (b.run calls).1 (b'.run calls).1 := by
  induction calls generalizing b b' with
  | nil => exact .nil
  | cons now rest ih =>
    obtain ⟨hanswer, hnext⟩ := take_below within h now
    rw [run_cons, run_cons]
    exact .cons hanswer (ih hnext)

/-! ## Headline -/

/-- Of answers that are all at least as good, at least as many are good. -/
theorem count_true_mono {answers answers' : List Bool}
    (h : List.Forall₂ (· ≤ ·) answers answers') : answers.count true ≤ answers'.count true := by
  induction h with
  | nil => exact Nat.le_refl _
  | @cons a a' _ _ hanswer _ ih =>
    have hone : a.toNat ≤ a'.toNat := Bool.toNat_le_toNat hanswer
    rw [count_true_cons, count_true_cons]
    exact Nat.add_le_add hone ih

/-- **Headline.**  Of two buckets that are made at one time and get the same calls, in any order of
their instants, the one with the more generous settings admits every call that the other one admits;
so after any part of the calls it has admitted at least as many. -/
theorem admitted_le_of_within (within : s.Within s') {created : Nat}
    (made : create s created = .ok b) (made' : create s' created = .ok b') (calls : List Nat) :
    List.Forall₂ (· ≤ ·) (b.run calls).1 (b'.run calls).1 ∧
    ∀ n, (b.admitted (calls.take n)).1 ≤ (b'.admitted (calls.take n)).1 := by
  have h := create_below within made made'
  refine ⟨run_below within h calls, fun n => ?_⟩
  rw [admitted_eq_run, admitted_eq_run]
  exact count_true_mono (run_below within h (calls.take n))

/-- A pool and a bucket that is refilled, whose interval is given in another unit; and two buckets
that are refilled.  Some instants are stale. -/
theorem admitted_le_of_within_of_stale :
    let calls := [0, 0, 0, 1000, 7, 2100, 1000, 2100]
    let small : ThrottleSettings := ⟨2, 0, 1000, .nanoseconds⟩
    let large : ThrottleSettings := ⟨2, 1, 1, .microseconds⟩
    let larger : ThrottleSettings := ⟨3, 2, 1, .microseconds⟩
    let pool : Bucket := ⟨2, 2, .never⟩
    let slow : Bucket := ⟨2, 2, .every 1 1000 0⟩
    let fast : Bucket := ⟨3, 3, .every 2 1000 0⟩
    small.Within large ∧ large.Within larger ∧
    create small 0 = .ok pool ∧ create large 0 = .ok slow ∧ create larger 0 = .ok fast ∧
    (slow.run calls).1 = [true, true, false, true, false, true, false, false] ∧
    (fast.run calls).1 = [true, true, true, true, true, true, true, false] ∧
    (pool.admitted (calls.take 6)).1 ≤ (slow.admitted (calls.take 6)).1 ∧
    (slow.admitted (calls.take 6)).1 ≤ (fast.admitted (calls.take 6)).1 := by
  intro calls small large larger pool slow fast
  have hsmall : small.Within large := ⟨by decide, by decide, by decide⟩
  have hlarge : large.Within larger := ⟨by decide, by decide, by decide⟩
  have hpool : create small 0 = .ok pool := rfl
  have hslow : create large 0 = .ok slow := by cbv
  have hfast : create larger 0 = .ok fast := by cbv
  exact ⟨hsmall, hlarge, hpool, hslow, hfast, by decide, by decide,
    (admitted_le_of_within hsmall hpool hslow calls).2 6,
    (admitted_le_of_within hlarge hslow hfast calls).2 6⟩

end Bucket

end Turnstile

import Turnstile.Proofs.Bucket.Step
/-!
  A bucket that credits late answers like one that a clock refills.

  1. **The reference** — `EagerBucket` lives in time: its clock ticks nanosecond by nanosecond, and
     at each boundary, which is `created + k * interval` for some `k ≥ 1`, it gains its tokens at
     once, up to the capacity.  A call lets the clock run up to its instant and then takes a token
     if there is one.

  2. **The crux** (`elapse_eq`) — however long the clock runs, all the boundaries it passes amount
     to one credit with one cap: capping after each boundary and capping once at the end give the
     same, because what is added is never negative.

  3. **The simulation** (`Tracks`) — the two hold the same tokens, and the late bucket's interval
     began at the last boundary that the clock has passed.  `credit_tracks` is the step for time,
     `take_tracks` the step for a call, `run_tracks` the run.  The alignment is what breaks after
     `2^64` nanoseconds, where an interval may begin at a call; hence the bound on the instants.

  4. **Headline** (`answers_eq_eager`).
-/

namespace Turnstile

/-! ## The reference -/

/-- A bucket that a clock refills at each boundary. -/
structure EagerBucket where
  capacity : Nat
  amount : Nat
  interval : Nat
  created : Nat
  /-- The instant up to which the clock has run. -/
  clock : Nat
  tokens : Nat
  deriving DecidableEq, Repr

namespace EagerBucket

/-- A full bucket, made at `now`. -/
def create (s : ThrottleSettings) (now : Nat) : EagerBucket :=
  ⟨s.capacity.toNat, s.refillTokens.toNat, s.interval, now, now, s.capacity.toNat⟩

/-- Whether tokens are added at an instant. -/
def Boundary (e : EagerBucket) (t : Nat) : Prop := ∃ k, 1 ≤ k ∧ t = e.created + k * e.interval

theorem boundary_iff (e : EagerBucket) (t : Nat) :
    e.Boundary t ↔ e.created + e.interval ≤ t ∧ e.interval ∣ t - e.created := by
  constructor
  · rintro ⟨k, hk, rfl⟩
    have hle : 1 * e.interval ≤ k * e.interval := Nat.mul_le_mul_right _ hk
    refine ⟨by omega, ?_⟩
    rw [Nat.add_sub_cancel_left]
    exact Nat.dvd_mul_left _ _
  · rintro ⟨hle, k, hk⟩
    rcases Nat.eq_zero_or_pos k with rfl | hpos
    · -- an interval without length: its boundaries all fall on the creation
      rw [Nat.mul_zero] at hk
      exact ⟨1, Nat.le_refl _, by omega⟩
    · exact ⟨k, hpos, by rw [Nat.mul_comm]; omega⟩

instance (e : EagerBucket) (t : Nat) : Decidable (e.Boundary t) :=
  decidable_of_iff _ (e.boundary_iff t).symm

/-- One nanosecond passes. -/
def tick (e : EagerBucket) : EagerBucket :=
  { e with
    clock := e.clock + 1
    tokens := if e.Boundary (e.clock + 1) then min e.capacity (e.tokens + e.amount) else e.tokens }

/-- So many nanoseconds pass. -/
def elapse (e : EagerBucket) : Nat → EagerBucket
  | 0 => e
  | n + 1 => (e.elapse n).tick

/-- Takes one token as of `now`; whether there was one, and the bucket after it. -/
def take (e : EagerBucket) (now : Nat) : Bool × EagerBucket :=
  let c := e.elapse (now - e.clock)
  if c.tokens = 0 then (false, c) else (true, { c with tokens := c.tokens - 1 })

/-- The answers to calls at the given instants, and the bucket after them. -/
def run (e : EagerBucket) : List Nat → List Bool × EagerBucket
  | [] => ([], e)
  | now :: rest =>
    ((e.take now).1 :: ((e.take now).2.run rest).1, ((e.take now).2.run rest).2)

/-! ## The boundaries that have passed -/

/-- How many boundaries have passed by an instant. -/
def passed (e : EagerBucket) (t : Nat) : Nat := (t - e.created) / e.interval

theorem passed_mono (e : EagerBucket) {t u : Nat} (h : t ≤ u) : e.passed t ≤ e.passed u :=
  Nat.div_le_div_right (Nat.sub_le_sub_right h _)

/-- A tick passes one boundary if it ends on one, and otherwise none. -/
theorem passed_succ {e : EagerBucket} {t : Nat} (hle : e.created ≤ t) :
    e.passed (t + 1) = e.passed t + if e.Boundary (t + 1) then 1 else 0 := by
  have hsub : t + 1 - e.created = t - e.created + 1 := by omega
  have hiff : e.Boundary (t + 1) ↔ e.interval ∣ t - e.created + 1 := by
    rw [boundary_iff, hsub]
    refine ⟨fun h => h.2, fun h => ⟨?_, h⟩⟩
    have hlong := Nat.le_of_dvd (Nat.succ_pos _) h
    omega
  unfold passed
  rw [hsub, Nat.succ_div]
  by_cases h : e.interval ∣ t - e.created + 1
  · rw [if_pos h, if_pos (hiff.mpr h)]
  · rw [if_neg h, if_neg (fun hb => h (hiff.mp hb))]

/-- **Many boundaries are one credit**: the clock adds for all the boundaries that it passes, and
one cap at the end does what a cap at each of them does. -/
theorem elapse_eq {e : EagerBucket} (hheld : e.tokens ≤ e.capacity) (hle : e.created ≤ e.clock)
    (n : Nat) :
    e.elapse n = { e with
      clock := e.clock + n
      tokens := min (e.tokens + (e.passed (e.clock + n) - e.passed e.clock) * e.amount)
        e.capacity } := by
  induction n with
  | zero =>
    show e = _
    rw [Nat.add_zero, Nat.sub_self, Nat.zero_mul, Nat.add_zero, Nat.min_eq_left hheld]
  | succ n ih =>
    have hmono := e.passed_mono (Nat.le_add_right e.clock n)
    have hsucc := passed_succ (show e.created ≤ e.clock + n by omega)
    show (e.elapse n).tick = _
    rw [ih, ← Nat.add_assoc, hsucc]
    show ({ e with
      clock := e.clock + n + 1
      tokens := if e.Boundary (e.clock + n + 1) then min e.capacity (min _ _ + e.amount)
        else min _ _ } : EagerBucket) = _
    by_cases h : e.Boundary (e.clock + n + 1)
    · have hcount : e.passed (e.clock + n) + 1 - e.passed e.clock
          = e.passed (e.clock + n) - e.passed e.clock + 1 := by omega
      rw [if_pos h, if_pos h, hcount, Nat.succ_mul]
      congr 1
      omega
    · rw [if_neg h, if_neg h, Nat.add_zero (e.passed _)]

/-- A bucket without capacity, or to which nothing is added, gains nothing, whatever its
interval. -/
theorem elapse_of_idle {e : EagerBucket} (hidle : e.capacity = 0 ∨ e.amount = 0)
    (hheld : e.tokens ≤ e.capacity) (hle : e.created ≤ e.clock) (n : Nat) :
    e.elapse n = { e with clock := e.clock + n } := by
  rw [elapse_eq hheld hle]
  rcases hidle with h | h
  · rw [h, Nat.min_zero, ← Nat.le_zero.mp (h ▸ hheld)]
  · rw [h, Nat.mul_zero, Nat.add_zero, Nat.min_eq_left hheld]

/-! ## What time leaves alone -/

theorem elapse_frame (e : EagerBucket) (n : Nat) :
    ∃ tokens, e.elapse n = { e with clock := e.clock + n, tokens } := by
  induction n with
  | zero => exact ⟨e.tokens, rfl⟩
  | succ n ih =>
    obtain ⟨tokens, h⟩ := ih
    refine ⟨(e.elapse n).tick.tokens, ?_⟩
    show (e.elapse n).tick = { e with clock := _, tokens := (e.elapse n).tick.tokens }
    rw [h]
    rfl

theorem take_frame {e : EagerBucket} {now : Nat} (hle : e.clock ≤ now) :
    ∃ tokens, (e.take now).2 = { e with clock := now, tokens } := by
  obtain ⟨tokens, h⟩ := e.elapse_frame (now - e.clock)
  rw [Nat.add_sub_cancel' hle] at h
  unfold take
  rw [h]
  dsimp only
  split <;> exact ⟨_, rfl⟩

theorem run_frame {e : EagerBucket} {calls : List Nat} (ordered : calls.Pairwise (· ≤ ·))
    (hle : ∀ now ∈ calls, e.clock ≤ now) :
    ∃ tokens, (e.run calls).2 = { e with clock := calls.getLastD e.clock, tokens } := by
  induction calls generalizing e with
  | nil => exact ⟨e.tokens, rfl⟩
  | cons now rest ih =>
    obtain ⟨hnow, hrest⟩ := List.pairwise_cons.mp ordered
    obtain ⟨tokens, h⟩ := take_frame (hle now List.mem_cons_self)
    show ∃ tokens, ((e.take now).2.run rest).2 = _
    rw [h, List.getLastD_cons]
    exact ih hrest hnow

end EagerBucket

/-! ## The simulation -/

namespace Bucket

/-- **Tracks**: both hold the same tokens, and the interval of `b` began at the last boundary that
the clock of `e` has passed, or `b` is never refilled and the clock refills `e` with nothing. -/
structure Tracks (b : Bucket) (e : EagerBucket) : Prop where
  capacity : b.capacity = e.capacity
  tokens : b.tokens = e.tokens
  held : e.tokens ≤ e.capacity
  begun : e.created ≤ e.clock
  refill : (b.refill = .never ∧ (e.capacity = 0 ∨ e.amount = 0)) ∨
    (b.refill = .every e.amount e.interval (e.created + e.passed e.clock * e.interval) ∧
      0 < e.interval)

theorem create_tracks {s : ThrottleSettings} {created : Nat} {b : Bucket}
    (made : create s created = .ok b) : b.Tracks (EagerBucket.create s created) := by
  rcases create_cases made with ⟨rfl, hidle⟩ | ⟨rfl, hT⟩
  · exact ⟨rfl, rfl, Nat.le_refl _, Nat.le_refl _, Or.inl ⟨rfl, hidle⟩⟩
  · refine ⟨rfl, rfl, Nat.le_refl _, Nat.le_refl _, Or.inr ⟨?_, hT⟩⟩
    simp [EagerBucket.create, EagerBucket.passed]

/-- The intervals that have ended since a boundary are the boundaries passed after it. -/
theorem ended_eq_passed (e : EagerBucket) (t now : Nat) :
    (now - (e.created + e.passed t * e.interval)) / e.interval = e.passed now - e.passed t := by
  rw [← Nat.sub_sub, Nat.mul_comm, Nat.sub_mul_div]
  rfl

/-- **The step for time**: crediting late is letting the clock run. -/
theorem credit_tracks {b : Bucket} {e : EagerBucket} (h : b.Tracks e) {now : Nat}
    (hle : e.clock ≤ now) (hspan : now ≤ e.created + maxAdvance) :
    (b.credit now).Tracks (e.elapse (now - e.clock)) := by
  obtain ⟨capacity, tokens, refill⟩ := b
  obtain ⟨rfl, rfl, hheld, hbegun, hrefill⟩ := h
  have hclock : e.clock + (now - e.clock) = now := Nat.add_sub_cancel' hle
  rcases hrefill with ⟨rfl, hidle⟩ | ⟨rfl, hT⟩
  · rw [EagerBucket.elapse_of_idle hidle hheld hbegun, hclock]
    exact ⟨rfl, rfl, hheld, Nat.le_trans hbegun hle, Or.inl ⟨rfl, hidle⟩⟩
  · rw [EagerBucket.elapse_eq hheld hbegun, hclock, credit_every hheld, ended_eq_passed]
    refine ⟨rfl, rfl, Nat.min_le_right _ _, Nat.le_trans hbegun hle, Or.inr ⟨?_, hT⟩⟩
    -- the intervals that are credited fit into the time since the creation, so no interval
    -- begins at the call
    have hmono := Nat.mul_le_mul_right e.interval (e.passed_mono hle)
    have hsub := Nat.sub_mul (e.passed now) (e.passed e.clock) e.interval
    have hfits : e.passed now * e.interval ≤ now - e.created := Nat.div_mul_le_self _ _
    have hshort : (e.passed now - e.passed e.clock) * e.interval ≤ maxAdvance := by omega
    unfold nextStart
    rw [if_pos hshort]
    show Refill.every _ _ _ = Refill.every _ _ (e.created + e.passed now * e.interval)
    congr 1
    omega

/-- **The step for a call**: the same answer, and the buckets stay together. -/
theorem take_tracks {b : Bucket} {e : EagerBucket} (h : b.Tracks e) {now : Nat}
    (hle : e.clock ≤ now) (hspan : now ≤ e.created + maxAdvance) :
    (b.take now).1 = (e.take now).1 ∧ (b.take now).2.Tracks (e.take now).2 := by
  have hc := credit_tracks h hle hspan
  unfold take EagerBucket.take
  dsimp only
  rw [hc.tokens]
  split
  · exact ⟨rfl, hc⟩
  · exact ⟨rfl, hc.capacity, rfl, Nat.le_trans (Nat.sub_le _ _) hc.held, hc.begun, hc.refill⟩

/-- **The run**: by induction on the calls, with the clock of `e` at the last one. -/
theorem run_tracks {b : Bucket} {e : EagerBucket} (h : b.Tracks e) {calls : List Nat}
    (ordered : calls.Pairwise (· ≤ ·))
    (within : ∀ now ∈ calls, e.clock ≤ now ∧ now ≤ e.created + maxAdvance) :
    (b.run calls).1 = (e.run calls).1 ∧ (b.run calls).2.Tracks (e.run calls).2 := by
  induction calls generalizing b e with
  | nil => exact ⟨rfl, h⟩
  | cons now rest ih =>
    obtain ⟨hnow, hrest⟩ := List.pairwise_cons.mp ordered
    obtain ⟨hle, hspan⟩ := within now List.mem_cons_self
    obtain ⟨hanswer, hnext⟩ := take_tracks h hle hspan
    obtain ⟨tokens, hframe⟩ := EagerBucket.take_frame hle
    have hwithin : ∀ t ∈ rest,
        (e.take now).2.clock ≤ t ∧ t ≤ (e.take now).2.created + maxAdvance := by
      intro t ht
      rw [hframe]
      exact ⟨hnow t ht, (within t (List.mem_cons_of_mem now ht)).2⟩
    obtain ⟨hanswers, hlast⟩ := ih hnext hrest hwithin
    refine ⟨?_, hlast⟩
    show (b.take now).1 :: ((b.take now).2.run rest).1
      = (e.take now).1 :: ((e.take now).2.run rest).1
    rw [hanswer, hanswers]

/-! ## Headline -/

/-- **Aligned**: the state of a bucket whose boundaries are those of its creation, after a last call
at `last`. -/
structure Aligned (b : Bucket) (s : ThrottleSettings) (created last : Nat) : Prop where
  /-- However long the bucket is left alone, it is credited up to the capacity only. -/
  capped : ∀ later, (b.credit later).tokens ≤ s.capacity.toNat
  /-- Nothing is credited while no boundary is passed. -/
  still : ∀ later, (∀ k, created + k * s.interval ≤ last ∨ later < created + k * s.interval) →
    (b.credit later).tokens = b.tokens
  /-- The current interval began at a boundary, the last one that was passed. -/
  begun : ∀ amount interval since, b.refill = .every amount interval since →
    ∃ k, since = created + k * s.interval ∧ since ≤ last ∧ last < since + s.interval

/-- A bucket that tracks a clock standing at `last` is aligned. -/
theorem Tracks.aligned {b : Bucket} {s : ThrottleSettings} {created last tokens : Nat}
    (h : b.Tracks { EagerBucket.create s created with clock := last, tokens }) (hb : Obeys s b) :
    b.Aligned s created last := by
  have hle : created ≤ last := h.begun
  have hrefill := h.refill
  cases hb with
  | pool idle held => exact ⟨fun _ => held, fun _ _ => rfl, fun _ _ _ h => by nomatch h⟩
  | @periodic n since lasts held =>
    have hsince : since = created + (last - created) / s.interval * s.interval := by
      rcases hrefill with ⟨hnever, -⟩ | ⟨hevery, -⟩
      · nomatch hnever
      · injection hevery
    have hlow : (last - created) / s.interval * s.interval ≤ last - created :=
      Nat.div_mul_le_self _ _
    have hhigh : last - created < (last - created) / s.interval * s.interval + s.interval :=
      Nat.lt_div_mul_add lasts
    refine ⟨fun later => (credit_obeys (.periodic lasts held) later).held, ?_, ?_⟩
    · intro later hquiet
      -- the boundary after the last one that was passed is still to come
      have hnext := hquiet ((last - created) / s.interval + 1)
      rw [Nat.succ_mul] at hnext
      have hrecent : later < since + s.interval := by omega
      rw [credit_of_recent (.periodic lasts held) hrecent]
    · intro amount interval since' h
      injection h with _ _ hsame
      subst hsame
      exact ⟨(last - created) / s.interval, hsince, by omega, by omega⟩

/-- **Headline.**  A bucket that credits at its calls answers like one that is refilled at every
boundary, for calls in order within `2^64` nanoseconds of its creation; and its boundaries stay
where the creation put them. -/
theorem answers_eq_eager {s : ThrottleSettings} {created : Nat} {b : Bucket}
    (made : create s created = .ok b) {calls : List Nat} (ordered : calls.Pairwise (· ≤ ·))
    (within : ∀ now ∈ calls, created ≤ now ∧ now ≤ created + maxAdvance) :
    (b.run calls).1 = ((EagerBucket.create s created).run calls).1 ∧
    (b.run calls).2.tokens = ((EagerBucket.create s created).run calls).2.tokens ∧
    (b.run calls).2.Aligned s created (calls.getLastD created) := by
  obtain ⟨hanswers, hlast⟩ := run_tracks (create_tracks made) ordered within
  obtain ⟨tokens, hframe⟩ := EagerBucket.run_frame (e := EagerBucket.create s created) ordered
    (fun now h => (within now h).1)
  refine ⟨hanswers, hlast.tokens, ?_⟩
  have hobeys := run_obeys (create_obeys made) calls
  rw [hframe] at hlast
  exact hlast.aligned hobeys

/-- Two tokens every ten nanoseconds, at most three: calls inside an interval, on boundaries and
after a long pause. -/
theorem answers_eq_eager_of_three :
    create ⟨3, 2, 10, .nanoseconds⟩ 5 = .ok ⟨3, 3, .every 2 10 5⟩ ∧
    [5, 5, 5, 14, 15, 16, 17, 95, 95, 95, 95].Pairwise (· ≤ ·) ∧
    (∀ now ∈ [5, 5, 5, 14, 15, 16, 17, 95, 95, 95, 95], 5 ≤ now ∧ now ≤ 5 + maxAdvance) ∧
    ((EagerBucket.create ⟨3, 2, 10, .nanoseconds⟩ 5).run
        [5, 5, 5, 14, 15, 16, 17, 95, 95, 95, 95]).1 =
      [true, true, true, false, true, true, false, true, true, true, false] := by
  have made : create ⟨3, 2, 10, .nanoseconds⟩ 5 = .ok ⟨3, 3, .every 2 10 5⟩ := rfl
  exact ⟨made, by decide, by decide, (answers_eq_eager made (by decide) (by decide)).1.symm⟩

end Bucket

end Turnstile

import Turnstile.Proofs.Bucket.Step
/-!
  How many calls a token bucket admits.

  1. **One window** (`admittedWithin_le_burst`) — in the time of one interval, both ends included, a
     bucket admits at most its capacity and one refill, and of the refill no more than fits.  The
     window may touch two boundaries and begin in any state.  What carries the proof is not where
     the boundaries lie but how long ago the current interval began: `OneLeft` says that at most
     one more boundary falls into the window, and it holds from the first call in the window on
     (`oneLeft_of_recent`), also if an interval begins at that call.  From there `allowance`, the
     tokens and the refill that may still come, pays for every admission (`take_allowance`).

  2. **Calls in any order** (`admitted_le_of_any_order`) — callers read the clock before their turn,
     so the instants of a run need not be ordered.  The account of a run (`run_every`) counts the
     intervals that were credited: each of them moved the start of the current interval by its
     length, and the start never passes the latest instant that a call brought.
-/

namespace Turnstile.Bucket

variable {s : ThrottleSettings} {b : Bucket}

theorem count_true_cons (admitted : Bool) (answers : List Bool) :
    (admitted :: answers).count true = admitted.toNat + answers.count true := by
  cases admitted
  · rw [List.count_cons_of_ne (by decide), Bool.toNat_false, Nat.zero_add]
  · rw [List.count_cons_self, Bool.toNat_true, Nat.add_comm]

/-! ## One window -/

/-- How many of the calls from `start` to `stop` are admitted. -/
def admittedWithin (b : Bucket) (start stop : Nat) (calls : List Nat) : Nat :=
  (calls.zip (b.run calls).1).countP fun (now, admitted) =>
    decide (start ≤ now ∧ now ≤ stop) && admitted

theorem admittedWithin_cons (b : Bucket) (start stop now : Nat) (rest : List Nat) :
    b.admittedWithin start stop (now :: rest) =
      (if start ≤ now ∧ now ≤ stop then (b.take now).1.toNat else 0) +
        (b.take now).2.admittedWithin start stop rest := by
  unfold admittedWithin
  rw [run_cons, List.zip_cons_cons, List.countP_cons, Nat.add_comm]
  congr 1
  show (if (decide (start ≤ now ∧ now ≤ stop) && (b.take now).1) = true then 1 else 0) = _
  by_cases h : start ≤ now ∧ now ≤ stop
  · rw [if_pos h, decide_eq_true h, Bool.true_and]
    cases (b.take now).1 <;> rfl
  · rw [if_neg h, decide_eq_false h, Bool.false_and]
    rfl

/-- Nothing is admitted in a window that all calls come after. -/
theorem admittedWithin_eq_zero {start stop : Nat} {calls : List Nat}
    (after : ∀ now ∈ calls, stop < now) : b.admittedWithin start stop calls = 0 := by
  induction calls generalizing b with
  | nil => rfl
  | cons now rest ih =>
    have hnow : stop < now := after now List.mem_cons_self
    rw [admittedWithin_cons, if_neg (by omega), Nat.zero_add]
    exact ih fun t ht => after t (List.mem_cons_of_mem now ht)

/-- **One left**: at most one more boundary falls on or before `stop`. -/
def OneLeft (b : Bucket) (stop : Nat) : Prop :=
  match b.refill with
  | .never => True
  | .every _ interval since => stop < since + 2 * interval

/-- What may be admitted up to `stop`, if at most one boundary is left: the tokens, and what the
boundary adds. -/
def allowance (b : Bucket) (stop : Nat) : Nat :=
  b.tokens + match b.refill with
    | .never => 0
    | .every amount interval since => if since + interval ≤ stop then min b.capacity amount else 0

theorem allowance_le (hb : Obeys s b) (stop : Nat) :
    b.allowance stop ≤ s.capacity.toNat + min s.capacity.toNat s.refillTokens.toNat := by
  cases hb with
  | pool _ held => exact Nat.le_trans held (Nat.le_add_right _ _)
  | periodic _ held =>
    unfold allowance
    dsimp only
    split <;> omega

/-- A window of one interval that a recent bucket is in has at most one boundary left. -/
theorem oneLeft_of_recent (hb : Obeys s b) {start now : Nat} (hstart : start ≤ now)
    (hr : b.Recent now) : b.OneLeft (start + s.interval) := by
  cases hb with
  | pool => trivial
  | @periodic tokens since lasts held =>
    have hlt : now < since + s.interval := hr
    show start + s.interval < since + 2 * s.interval
    omega

/-- The one boundary that is left adds no more than the allowance has set aside for it, and after
it none is left. -/
theorem credit_allowance (hb : Obeys s b) {now stop : Nat} (hone : b.OneLeft stop)
    (hle : now ≤ stop) :
    (b.credit now).OneLeft stop ∧ (b.credit now).allowance stop ≤ b.allowance stop := by
  cases hb with
  | pool => exact ⟨trivial, Nat.le_refl _⟩
  | @periodic tokens since lasts held =>
    have hlate : stop < since + 2 * s.interval := hone
    by_cases hr : now < since + s.interval
    · rw [credit_of_recent (.periodic lasts held) hr]
      exact ⟨hone, Nat.le_refl _⟩
    · have hended : (now - since) / s.interval = 1 :=
        Nat.div_eq_of_lt_le (by omega) (by omega)
      have hnext : since + 1 * s.interval ≤ nextStart since (1 * s.interval) now :=
        add_le_nextStart (by omega)
      rw [credit_every held, hended]
      generalize nextStart since (1 * s.interval) now = next at hnext
      constructor
      · show stop < next + 2 * s.interval
        omega
      · unfold allowance
        dsimp only
        rw [if_neg (show ¬ next + s.interval ≤ stop by omega),
          if_pos (show since + s.interval ≤ stop by omega)]
        omega

/-- **The step**: the allowance pays for the call. -/
theorem take_allowance (hb : Obeys s b) {now stop : Nat} (hone : b.OneLeft stop)
    (hle : now ≤ stop) :
    (b.take now).2.OneLeft stop ∧
      (b.take now).1.toNat + (b.take now).2.allowance stop ≤ b.allowance stop := by
  obtain ⟨hnext, hallowed⟩ := credit_allowance hb hone hle
  have haccount := toNat_add_tokens_take b now
  rw [take_snd] at haccount ⊢
  refine ⟨hnext, Nat.le_trans (Nat.le_of_eq ?_) hallowed⟩
  unfold allowance
  rw [← Nat.add_assoc, haccount]

/-- **The window from its first call on**: by induction on the calls, until they are past it. -/
theorem admittedWithin_le_allowance (hb : Obeys s b) {start stop : Nat} (hone : b.OneLeft stop)
    {calls : List Nat} (ordered : calls.Pairwise (· ≤ ·)) :
    b.admittedWithin start stop calls ≤ b.allowance stop := by
  induction calls generalizing b with
  | nil => exact Nat.zero_le _
  | cons now rest ih =>
    obtain ⟨hnow, hrest⟩ := List.pairwise_cons.mp ordered
    by_cases hle : now ≤ stop
    · obtain ⟨hnext, hpaid⟩ := take_allowance hb hone hle
      have hih := ih (take_obeys hb now) hnext hrest
      rw [admittedWithin_cons]
      split <;> omega
    · have hafter : ∀ t ∈ now :: rest, stop < t := by
        intro t ht
        rcases List.mem_cons.mp ht with rfl | ht
        · omega
        · have := hnow t ht
          omega
      rw [admittedWithin_eq_zero hafter]
      exact Nat.zero_le _

/-- **The burst bound of any state.**  Before the window calls only change the state; the first
call in it finds the bucket credited, at most full. -/
theorem Obeys.admittedWithin_le (hb : Obeys s b) (start : Nat) {calls : List Nat}
    (ordered : calls.Pairwise (· ≤ ·)) :
    b.admittedWithin start (start + s.interval) calls ≤
      s.capacity.toNat + min s.capacity.toNat s.refillTokens.toNat := by
  induction calls generalizing b with
  | nil => exact Nat.zero_le _
  | cons now rest ih =>
    by_cases hbefore : now < start
    · rw [admittedWithin_cons, if_neg (by omega), Nat.zero_add]
      exact ih (take_obeys hb now) (List.pairwise_cons.mp ordered).2
    · have hc := credit_obeys hb now
      have hone := oneLeft_of_recent hc (Nat.le_of_not_lt hbefore) (credit_recent hb now)
      have hsame : b.admittedWithin start (start + s.interval) (now :: rest)
          = (b.credit now).admittedWithin start (start + s.interval) (now :: rest) := by
        rw [admittedWithin_cons, admittedWithin_cons, take_credit hb]
      rw [hsame]
      exact Nat.le_trans (admittedWithin_le_allowance hc hone ordered) (allowance_le hc _)

/-- **Burst bound.**  Of calls in order, those in a window of one interval that are admitted are at
most the capacity and as much of one refill as fits. -/
theorem admittedWithin_le_burst {created : Nat} (made : create s created = .ok b)
    {calls : List Nat} (ordered : calls.Pairwise (· ≤ ·)) (start : Nat) :
    b.admittedWithin start (start + s.interval) calls ≤
      s.capacity.toNat + min s.capacity.toNat s.refillTokens.toNat :=
  (create_obeys made).admittedWithin_le start ordered

/-- A window from boundary to boundary, in which the bound is reached. -/
theorem admittedWithin_le_burst_of_three :
    create ⟨3, 2, 10, .nanoseconds⟩ 0 = .ok ⟨3, 3, .every 2 10 0⟩ ∧
    [4, 10, 10, 10, 10, 20, 20, 20].Pairwise (· ≤ ·) ∧
    (⟨3, 3, .every 2 10 0⟩ : Bucket).admittedWithin 10 20 [4, 10, 10, 10, 10, 20, 20, 20] = 5 ∧
    (⟨3, 3, .every 2 10 0⟩ : Bucket).admittedWithin 10 20 [4, 10, 10, 10, 10, 20, 20, 20] ≤
      3 + min 3 2 :=
  have made : create ⟨3, 2, 10, .nanoseconds⟩ 0 = .ok ⟨3, 3, .every 2 10 0⟩ := rfl
  ⟨made, by decide, by decide, admittedWithin_le_burst made (by decide) 10⟩

/-! ## Calls in any order

  A call is one step on the bucket, so whatever several callers do is one run: the list of the
  instants that they bring, in the order in which they get their turns. -/

/-- When the current interval began, if the bucket is ever refilled. -/
def since? (b : Bucket) : Option Nat :=
  match b.refill with
  | .never => none
  | .every _ _ since => some since

/-- A bucket that is never refilled pays every call from the tokens it has. -/
theorem run_pool (s : ThrottleSettings) (tokens : Nat) (calls : List Nat) :
    ((pool s tokens).run calls).1.count true = min calls.length tokens ∧
      ((pool s tokens).run calls).2 = pool s (tokens - calls.length) := by
  induction calls generalizing tokens with
  | nil => exact ⟨(Nat.zero_min _).symm, rfl⟩
  | cons now rest ih =>
    have hnext : ((pool s tokens).take now).2 = pool s (tokens - 1) := take_snd _ _
    have haccount := toNat_add_tokens_take (pool s tokens) now
    rw [hnext] at haccount
    change _ + (tokens - 1) = tokens at haccount
    obtain ⟨hcount, hlast⟩ := ih (tokens - 1)
    rw [run_cons, hnext, count_true_cons, hcount, hlast, List.length_cons, Nat.sub_sub,
      Nat.add_comm 1]
    exact ⟨by omega, rfl⟩

/-- **The step**: the start of the interval moves at least by the intervals that are credited, but
not past the call. -/
theorem take_periodic {tokens : Nat} (held : tokens ≤ s.capacity.toNat) (since now : Nat) :
    ∃ tokens' since' ended,
      ((periodic s tokens since).take now).2 = periodic s tokens' since' ∧
      tokens' ≤ s.capacity.toNat ∧
      ((periodic s tokens since).take now).1.toNat + tokens' ≤
        tokens + ended * s.refillTokens.toNat ∧
      since + ended * s.interval ≤ since' ∧ since' ≤ max since now := by
  have hspan : (now - since) / s.interval * s.interval ≤ now - since := Nat.div_mul_le_self _ _
  have haccount := toNat_add_tokens_take (periodic s tokens since) now
  rw [take_snd, credit_every held] at haccount
  rw [take_snd, credit_every held]
  refine ⟨_, _, (now - since) / s.interval, rfl, ?_, ?_, add_le_nextStart hspan,
    nextStart_le hspan⟩
  · exact Nat.le_trans (Nat.sub_le _ _) (Nat.min_le_right _ _)
  · exact Nat.le_trans (Nat.le_of_eq haccount) (Nat.min_le_left _ _)

/-- **The account of a run**: all that was admitted was held at the start or credited since, and
every interval that was credited has moved the start of the current one.  By induction on the calls;
`latest` bounds the start and the instants so far. -/
theorem run_periodic {tokens since latest : Nat} (held : tokens ≤ s.capacity.toNat)
    (hlatest : since ≤ latest) (calls : List Nat) :
    ∃ tokens' since' ended,
      ((periodic s tokens since).run calls).2 = periodic s tokens' since' ∧
      tokens' ≤ s.capacity.toNat ∧
      ((periodic s tokens since).run calls).1.count true + tokens' ≤
        tokens + ended * s.refillTokens.toNat ∧
      since + ended * s.interval ≤ since' ∧ since' ≤ calls.foldl max latest := by
  induction calls generalizing tokens since latest with
  | nil =>
    refine ⟨tokens, since, 0, rfl, held, ?_, ?_, hlatest⟩
    · show 0 + tokens ≤ tokens + 0 * _
      omega
    · omega
  | cons now rest ih =>
    obtain ⟨tokens₁, since₁, ended₁, hnext, hheld₁, hpaid₁, hmove₁, hmax₁⟩ :=
      take_periodic held since now
    obtain ⟨tokens₂, since₂, ended₂, hlast, hheld₂, hpaid₂, hmove₂, hmax₂⟩ :=
      ih hheld₁ (show since₁ ≤ max latest now by omega)
    refine ⟨tokens₂, since₂, ended₁ + ended₂, ?_, hheld₂, ?_, ?_, hmax₂⟩
    · rw [run_cons, hnext]
      exact hlast
    · rw [run_cons, hnext, count_true_cons, Nat.add_mul]
      omega
    · rw [Nat.add_mul]
      omega

/-- **No more than was credited, in any order.**  Whatever instants the calls bring: the bucket
never holds more than its capacity; the start of the current interval never goes back, and never
past the latest instant; and what is admitted is the capacity and the refills of the intervals up to
that instant at most.  A bucket that is never refilled admits exactly its capacity. -/
theorem admitted_le_of_any_order {created : Nat} (made : create s created = .ok b)
    (calls : List Nat) :
    (b.run calls).2.tokens ≤ s.capacity.toNat ∧
    (∀ since ∈ (b.run calls).2.since?, since ≤ calls.foldl max created ∧
      ∀ more, ∃ later ∈ (b.run (calls ++ more)).2.since?, since ≤ later) ∧
    (b.refills = true → (b.admitted calls).1 ≤ s.capacity.toNat +
      s.refillTokens.toNat * ((calls.foldl max created - created) / s.interval)) ∧
    (b.refills = false → (b.admitted calls).1 = min calls.length s.capacity.toNat) := by
  refine ⟨(run_obeys (create_obeys made) calls).held, ?_⟩
  rw [admitted_eq_run]
  rcases create_cases made with ⟨rfl, -⟩ | ⟨rfl, hT⟩
  · obtain ⟨hcount, hlast⟩ := run_pool s s.capacity.toNat calls
    rw [hlast]
    refine ⟨fun since h => ?_, fun h => ?_, fun _ => hcount⟩
    · nomatch h
    · nomatch h
  · obtain ⟨tokens, since, ended, hlast, hheld, hpaid, hmove, hmax⟩ :=
      run_periodic (Nat.le_refl s.capacity.toNat) (Nat.le_refl created) calls
    refine ⟨fun since' h => ?_, fun _ => ?_, fun h => by nomatch h⟩
    · rw [hlast] at h
      obtain rfl : since = since' := Option.some.inj h
      refine ⟨hmax, fun more => ?_⟩
      obtain ⟨tokens', later, ended', hlater, -, -, hmove', -⟩ :=
        run_periodic hheld (Nat.le_refl since) more
      refine ⟨later, ?_, by omega⟩
      rw [run_append, hlast, hlater]
      exact rfl
    · have hfits : ended ≤ (calls.foldl max created - created) / s.interval := by
        rw [Nat.le_div_iff_mul_le hT]
        omega
      have hcredit := Nat.mul_le_mul_right s.refillTokens.toNat hfits
      rw [Nat.mul_comm s.refillTokens.toNat]
      dsimp only
      omega

/-- Instants out of order, two of them before the start of the interval that is current then, and a
pool that runs dry. -/
theorem admitted_le_of_any_order_of_stale :
    create ⟨2, 1, 10, .nanoseconds⟩ 5 = .ok ⟨2, 2, .every 1 10 5⟩ ∧
    ((⟨2, 2, .every 1 10 5⟩ : Bucket).admitted [35, 7, 35, 16, 46, 20, 47]).1 ≤
      2 + 1 * ((47 - 5) / 10) ∧
    create ⟨2, 0, 0, .days⟩ 5 = .ok ⟨2, 2, .never⟩ ∧
    ((⟨2, 2, .never⟩ : Bucket).admitted [35, 7, 35, 16, 46, 20, 47]).1 = min 7 2 :=
  have made : create ⟨2, 1, 10, .nanoseconds⟩ 5 = .ok ⟨2, 2, .every 1 10 5⟩ := rfl
  have pooled : create ⟨2, 0, 0, .days⟩ 5 = .ok ⟨2, 2, .never⟩ := rfl
  ⟨made, (admitted_le_of_any_order made _).2.2.1 rfl, pooled,
    (admitted_le_of_any_order pooled _).2.2.2 rfl⟩

end Turnstile.Bucket

import Turnstile.Proofs.Bucket.Step
import Turnstile.Proofs.Time.Words
/-!
  Token buckets in words of a fixed width.

  `Bucket` counts tokens and nanoseconds with numbers that have no end.  Here the same bucket keeps
  its tokens in 32 bits and its times in two words each, and credits by way of 128 bits.  Three
  things could then go wrong: a step could have no result (a division by zero, a sum that does not
  fit, an instant that the clock cannot show), a product could stop at the largest word, and a
  number could have to be replaced because it does not fit back into its word.

  1. **The bucket** (`WordBucket`) — each step is the one on words, and what has no result is
     missing: `credit?`, `take?` and `run?` are partial.

  2. **Bounds** (`Cycle.exact_of_lasts`) — a time has fewer than `2^64` seconds, an interval at
     least one nanosecond, and an amount fewer than `2^32` tokens.  So no more than
     `2^64 * 10^9 * 2^32` tokens are ever credited at once, and this is below `2^126`.  What is
     credited fits into 128 bits, and the intervals that are credited fit into the time that has
     passed.

  3. **The simulation** (`credit?_eq`, `take?_eq`, `run?_eq`) — a sound bucket in words always comes
     to a result, and it is that of `Bucket`, number by number.

  4. **Headline** (`exact_at_every_limit`).
-/

namespace Turnstile

/-! ## The bucket -/

/-- **A cycle**: the state of a bucket that is refilled. -/
structure Cycle where
  /-- The tokens that are added at the end of each interval. -/
  amount : BitVec 32
  interval : Time64
  tokens : BitVec 32
  /-- When the current interval began. -/
  since : Time64
  deriving DecidableEq, Repr

namespace Cycle

/-- The start of the interval that is current after whole intervals of `span` nanoseconds together:
the call itself, if the nanoseconds do not fit into 64 bits. -/
def nextStart? (since : Time64) (span : BitVec 128) (now : Time64) : Option Time64 :=
  match Word.narrow? 64 span with
  | some nanos => since.add? (.ofNanos nanos)
  | none => some now

variable (c : Cycle) (now : Time64)

/-- The time since the current interval began. -/
def elapsed : Time64 := now.since c.since

/-- How many intervals have ended. -/
def periods : BitVec 128 := (c.elapsed now).asNanos / c.interval.asNanos

/-- The tokens that are added for them. -/
def added : BitVec 128 := Word.mulSat (c.periods now) (c.amount.setWidth 128)

/-- The nanoseconds that they have taken together. -/
def advanced : BitVec 128 := Word.mulSat (c.periods now) c.interval.asNanos

/-- Credits every interval that has ended by `now`. -/
def credit? (capacity : BitVec 32) : Option Cycle :=
  if c.interval ≤ c.elapsed now then
    if c.interval.asNanos = 0 then none
    else (Word.add? (c.tokens.setWidth 128) (c.added now)).bind fun total =>
      (nextStart? c.since (c.advanced now) now).map fun since =>
        let refilled := Word.least total (capacity.setWidth 128)
        { c with tokens := (Word.narrow? 32 refilled).getD capacity, since }
  else some c

end Cycle

/-- How a bucket in words regains tokens. -/
inductive WordRefill where
  | never (tokens : BitVec 32)
  | every (cycle : Cycle)
  deriving DecidableEq, Repr

/-- **A token bucket in words.** -/
structure WordBucket where
  capacity : BitVec 32
  refill : WordRefill
  deriving DecidableEq, Repr

namespace WordBucket

/-- A full bucket, made at `now`. -/
def create (s : ThrottleSettings) (now : Time64) : Except ThrottleError WordBucket :=
  let capacity := s.capacity.toBitVec
  let amount := s.refillTokens.toBitVec
  if capacity = 0 then .ok ⟨capacity, .never 0⟩
  else if amount = 0 then .ok ⟨capacity, .never capacity⟩
  else
    let interval := s.refillUnit.duration s.refillPeriod.toBitVec
    if interval.isZero then .error .zeroPeriod
    else .ok ⟨capacity, .every ⟨amount, interval, capacity, now⟩⟩

/-- Takes one token as of `now`; whether there was one, and the bucket after it. -/
def take? (b : WordBucket) (now : Time64) : Option (Bool × WordBucket) :=
  match b.refill with
  | .never tokens =>
    match Word.pred? tokens with
    | some rest => some (true, { b with refill := .never rest })
    | none => some (false, b)
  | .every c =>
    (c.credit? now b.capacity).map fun c =>
      match Word.pred? c.tokens with
      | some rest => (true, { b with refill := .every { c with tokens := rest } })
      | none => (false, { b with refill := .every c })

/-- The answers to calls at the given instants, and the bucket after them. -/
def run? (b : WordBucket) : List Time64 → Option (List Bool × WordBucket)
  | [] => some ([], b)
  | now :: rest =>
    (b.take? now).bind fun (admitted, next) =>
      (next.run? rest).map fun (answers, last) => (admitted :: answers, last)

/-- The bucket as numbers. -/
def toBucket (b : WordBucket) : Bucket :=
  match b.refill with
  | .never tokens => ⟨b.capacity.toNat, tokens.toNat, .never⟩
  | .every c =>
    ⟨b.capacity.toNat, c.tokens.toNat, .every c.amount.toNat c.interval.toNat c.since.toNat⟩

end WordBucket

/-! ## Bounds -/

namespace Cycle

/-- The most tokens that are ever added at once. -/
def mostAdded : Nat := 2 ^ 64 * Duration.second * 2 ^ 32

/-- **Exact**: at a call at `now`, every step of the credit has its result, and the result is the
number that it stands for. -/
structure Exact (c : Cycle) (capacity : BitVec 32) (now : Time64) : Prop where
  /-- The division is not by zero. -/
  divisor : c.interval.asNanos ≠ 0
  /-- The product for the tokens does not come up to the largest word. -/
  product : (c.periods now).toNat * c.amount.toNat < 2 ^ 128 - 1 ∧
    (c.added now).toNat = (c.periods now).toNat * c.amount.toNat
  /-- The sum of the tokens fits. -/
  sum : c.tokens.toNat + (c.added now).toNat < 2 ^ 128
  /-- What is kept of the sum fits back into its word. -/
  narrowed : ∀ total, Word.add? (c.tokens.setWidth 128) (c.added now) = some total →
    (Word.narrow? 32 (Word.least total (capacity.setWidth 128))).isSome = true
  /-- The intervals that have ended fit into the time that has passed. -/
  spent : (c.periods now).toNat * c.interval.toNat ≤ (c.elapsed now).toNat ∧
    (c.advanced now).toNat = (c.periods now).toNat * c.interval.toNat
  /-- The next interval does not begin after the call, where one has ended. -/
  onTime : c.interval ≤ c.elapsed now → c.since.toNat + (c.advanced now).toNat ≤ now.toNat

variable {c : Cycle}

theorem toNat_periods (c : Cycle) (now : Time64) :
    (c.periods now).toNat = (c.elapsed now).toNat / c.interval.toNat := by
  unfold periods
  rw [BitVec.toNat_udiv, Time64.toNat_asNanos, Time64.toNat_asNanos]

theorem toNat_elapsed (c : Cycle) (now : Time64) :
    (c.elapsed now).toNat = now.toNat - c.since.toNat :=
  Time64.toNat_since now c.since

theorem product_lt (c : Cycle) (now : Time64) :
    (c.periods now).toNat * c.amount.toNat < mostAdded := by
  have hperiods : (c.periods now).toNat < 2 ^ 64 * Duration.second := by
    rw [toNat_periods]
    exact Nat.lt_of_le_of_lt (Nat.div_le_self _ _) (c.elapsed now).toNat_lt
  exact Nat.mul_lt_mul'' hperiods c.amount.isLt

theorem toNat_added (c : Cycle) (now : Time64) :
    (c.added now).toNat = (c.periods now).toNat * c.amount.toNat := by
  have hamount : (c.amount.setWidth 128).toNat = c.amount.toNat :=
    BitVec.toNat_setWidth_of_le (by decide)
  have hle : (c.periods now).toNat * c.amount.toNat ≤ 2 ^ 128 - 1 :=
    Nat.le_of_lt (Nat.lt_of_lt_of_le (c.product_lt now) (by decide))
  unfold added
  rw [Word.toNat_mulSat, hamount, Nat.min_eq_left hle]

theorem sum_lt (c : Cycle) (now : Time64) :
    c.tokens.toNat + (c.added now).toNat < 2 ^ 128 := by
  have hadded := c.product_lt now
  rw [← toNat_added] at hadded
  exact Nat.lt_of_lt_of_le (Nat.add_lt_add c.tokens.isLt hadded) (by decide)

theorem spent_le (c : Cycle) (now : Time64) :
    (c.periods now).toNat * c.interval.toNat ≤ (c.elapsed now).toNat := by
  rw [toNat_periods]
  exact Nat.div_mul_le_self _ _

theorem toNat_advanced (c : Cycle) (now : Time64) :
    (c.advanced now).toNat = (c.periods now).toNat * c.interval.toNat := by
  have hle : (c.periods now).toNat * c.interval.toNat ≤ 2 ^ 128 - 1 :=
    Nat.le_trans (c.spent_le now)
      (Nat.le_of_lt (Nat.lt_of_lt_of_le (c.elapsed now).toNat_lt (by decide)))
  unfold advanced
  rw [Word.toNat_mulSat, Time64.toNat_asNanos, Nat.min_eq_left hle]

/-- What is kept of the tokens and those that are added. -/
theorem exists_refilled (c : Cycle) (capacity : BitVec 32) (now : Time64) :
    ∃ total kept, Word.add? (c.tokens.setWidth 128) (c.added now) = some total ∧
      Word.narrow? 32 (Word.least total (capacity.setWidth 128)) = some kept ∧
      kept.toNat =
        min (c.tokens.toNat + (c.periods now).toNat * c.amount.toNat) capacity.toNat := by
  have hwide : ∀ w : BitVec 32, (w.setWidth 128).toNat = w.toNat :=
    fun w => BitVec.toNat_setWidth_of_le (by decide)
  have hfits : (c.tokens.setWidth 128).toNat + (c.added now).toNat < 2 ^ 128 := by
    rw [hwide]
    exact c.sum_lt now
  obtain ⟨total, htotal, htotal_eq⟩ := Word.exists_add? hfits
  have hleast := Word.toNat_least total (capacity.setWidth 128)
  rw [htotal_eq, hwide, hwide, toNat_added] at hleast
  have hsmall : (Word.least total (capacity.setWidth 128)).toNat < 2 ^ 32 := by
    rw [hleast]
    exact Nat.lt_of_le_of_lt (Nat.min_le_right _ _) capacity.isLt
  obtain ⟨kept, hkept, hkept_eq⟩ := Word.exists_narrow? hsmall
  exact ⟨total, kept, htotal, hkept, hkept_eq.trans hleast⟩

/-- Where an interval has ended, those that have end by the call. -/
theorem since_add_advanced_le {c : Cycle} {now : Time64} (lasts : 0 < c.interval.toNat)
    (ended : c.interval ≤ c.elapsed now) :
    c.since.toNat + (c.advanced now).toNat ≤ now.toNat := by
  have hended := Time64.le_iff.mp ended
  have hspent := c.spent_le now
  rw [toNat_elapsed] at hended hspent
  rw [toNat_advanced]
  omega

/-- **The bounds**: with an interval that lasts, every credit is exact. -/
theorem exact_of_lasts {c : Cycle} (lasts : 0 < c.interval.toNat) (capacity : BitVec 32)
    (now : Time64) : c.Exact capacity now where
  divisor h := by
    rw [Word.eq_zero_iff, Time64.toNat_asNanos] at h
    omega
  product := ⟨Nat.lt_of_lt_of_le (c.product_lt now) (by decide), c.toNat_added now⟩
  sum := c.sum_lt now
  narrowed total htotal := by
    obtain ⟨total', kept, htotal', hkept, -⟩ := c.exists_refilled capacity now
    rw [htotal] at htotal'
    obtain rfl := Option.some.inj htotal'
    rw [hkept]
    rfl
  spent := ⟨c.spent_le now, c.toNat_advanced now⟩
  onTime := since_add_advanced_le lasts

/-! ## The simulation -/

/-- The next interval begins where it does for numbers, if they are not ahead of the call. -/
theorem exists_nextStart? {since now : Time64} {span : BitVec 128}
    (onTime : since.toNat + span.toNat ≤ now.toNat) :
    ∃ next, nextStart? since span now = some next ∧
      next.toNat = Bucket.nextStart since.toNat span.toNat now.toNat := by
  have hmost : span.toNat ≤ Bucket.maxAdvance ↔ span.toNat < 2 ^ 64 := by
    unfold Bucket.maxAdvance
    omega
  unfold nextStart? Bucket.nextStart
  by_cases hshort : span.toNat ≤ Bucket.maxAdvance
  · obtain ⟨nanos, hnanos, hnanos_eq⟩ := Word.exists_narrow? (hmost.mp hshort)
    have hspan : (Time64.ofNanos nanos).toNat = span.toNat := by
      rw [← hnanos_eq]
      exact (Time64.toNat_ofParts rfl nanos).trans (Nat.mul_one _)
    have hfits : since.toNat + (Time64.ofNanos nanos).toNat < 2 ^ 64 * Duration.second := by
      rw [hspan]
      exact Nat.lt_of_le_of_lt onTime now.toNat_lt
    rw [hnanos, if_pos hshort, ← hspan]
    exact Time64.exists_add? hfits
  · have hnone : Word.narrow? 64 span = none := if_neg (mt hmost.mpr hshort)
    rw [hnone, if_neg hshort]
    exact ⟨now, rfl, rfl⟩

/-- The bucket of a cycle, as numbers. -/
def toBucket (capacity : BitVec 32) (c : Cycle) : Bucket :=
  (⟨capacity, .every c⟩ : WordBucket).toBucket

/-- **The step for time**: the credit comes to a result, which is that of the numbers. -/
theorem credit?_eq {c : Cycle} (lasts : 0 < c.interval.toNat) {capacity : BitVec 32}
    (held : c.tokens.toNat ≤ capacity.toNat) (now : Time64) :
    ∃ tokens since, c.credit? now capacity = some { c with tokens, since } ∧
      tokens.toNat ≤ capacity.toNat ∧
      (c.toBucket capacity).credit now.toNat = toBucket capacity { c with tokens, since } := by
  have hended := Time64.le_iff (a := c.interval) (b := c.elapsed now)
  rw [toNat_elapsed] at hended
  unfold credit? toBucket WordBucket.toBucket Bucket.credit
  dsimp only
  by_cases h : c.interval ≤ c.elapsed now
  · obtain ⟨total, kept, htotal, hkept, hkept_eq⟩ := c.exists_refilled capacity now
    obtain ⟨next, hnext, hnext_eq⟩ := exists_nextStart? (since_add_advanced_le lasts h)
    rw [toNat_periods, toNat_elapsed] at hkept_eq
    rw [toNat_advanced, toNat_periods, toNat_elapsed] at hnext_eq
    refine ⟨kept, next, ?_, ?_, ?_⟩
    · have hdivisor := (exact_of_lasts lasts capacity now).divisor
      rw [if_pos h, if_neg hdivisor, htotal, Option.bind_some, hnext, Option.map_some, hkept,
        Option.getD_some]
    · rw [hkept_eq]
      exact Nat.min_le_right _ _
    · rw [if_pos (hended.mp h), hkept_eq, hnext_eq]
  · refine ⟨c.tokens, c.since, if_neg h, held, ?_⟩
    rw [if_neg (mt hended.mpr h)]

end Cycle

namespace WordBucket

variable {s : ThrottleSettings} {b : WordBucket}

/-- **Sound**: a bucket that the settings can come to. -/
inductive Sound (s : ThrottleSettings) : WordBucket → Prop
  | never {tokens : BitVec 32} (held : tokens.toNat ≤ s.capacity.toNat) :
      Sound s ⟨s.capacity.toBitVec, .never tokens⟩
  | every {c : Cycle} (held : c.tokens.toNat ≤ s.capacity.toNat) (lasts : 0 < c.interval.toNat) :
      Sound s ⟨s.capacity.toBitVec, .every c⟩

theorem Sound.held (hb : b.Sound s) : b.toBucket.tokens ≤ s.capacity.toNat := by
  cases hb <;> assumption

theorem Sound.lasts (hb : b.Sound s) {c : Cycle} (hc : b.refill = .every c) :
    0 < c.interval.toNat := by
  cases hb with
  | never => cases hc
  | every _ lasts =>
    cases hc
    exact lasts

/-- **Made alike**: the settings make the same bucket in words and of numbers, or neither. -/
theorem create_eq (s : ThrottleSettings) (now : Time64) :
    (create s now).map toBucket = Bucket.create s now.toNat := by
  have hword : ∀ w : UInt32, w.toBitVec = 0 ↔ w = 0 := fun w => UInt32.toBitVec_inj
  have hinterval : (s.refillUnit.duration s.refillPeriod.toBitVec).toNat = s.interval :=
    TimeUnit.toNat_duration _ _
  unfold create Bucket.create
  dsimp only
  by_cases hcapacity : s.capacity = 0
  · rw [if_pos ((hword _).mpr hcapacity), if_pos (Or.inl hcapacity), hcapacity]
    rfl
  · by_cases hrefill : s.refillTokens = 0
    · rw [if_neg (mt (hword _).mp hcapacity), if_pos ((hword _).mpr hrefill),
        if_pos (Or.inr hrefill)]
      rfl
    · rw [if_neg (mt (hword _).mp hcapacity), if_neg (mt (hword _).mp hrefill),
        if_neg (not_or.mpr ⟨hcapacity, hrefill⟩)]
      by_cases hzero : s.interval = 0
      · rw [if_pos (Time64.isZero_iff.mpr (hinterval.trans hzero)), if_pos hzero]
        rfl
      · rw [if_neg (mt Time64.isZero_iff.mp (hinterval ▸ hzero)), if_neg hzero, ← hinterval]
        rfl

theorem create_sound {now : Time64} (made : create s now = .ok b) : b.Sound s := by
  unfold create at made
  dsimp only at made
  split at made
  · injection made with made
    exact made ▸ .never (Nat.zero_le _)
  · split at made
    · injection made with made
      exact made ▸ .never (Nat.le_refl _)
    · split at made
      · injection made
      · rename_i hlasts
        injection made with made
        exact made ▸ .every (Nat.le_refl _)
          (Nat.pos_of_ne_zero (mt Time64.isZero_iff.mpr hlasts))

/-- **The step for a call**: it comes to an answer, which is that of the numbers. -/
theorem take?_eq (hb : b.Sound s) (now : Time64) :
    ∃ admitted next, b.take? now = some (admitted, next) ∧ next.Sound s ∧
      b.toBucket.take now.toNat = (admitted, next.toBucket) := by
  cases hb with
  | @never tokens held =>
    rcases Word.pred?_cases tokens with ⟨hpred, hnone⟩ | ⟨rest, hpred, hsome, hrest⟩
    · refine ⟨false, ⟨s.capacity.toBitVec, .never tokens⟩, ?_, .never held, if_pos hnone⟩
      simp only [take?, hpred]
    · refine ⟨true, ⟨s.capacity.toBitVec, .never rest⟩, ?_, .never (by omega), ?_⟩
      · simp only [take?, hpred]
      · refine (if_neg hsome).trans ?_
        simp only [toBucket, Bucket.credit, hrest]
  | @every c held lasts =>
    obtain ⟨tokens, since, hcredit, hheld, hcredit_eq⟩ := Cycle.credit?_eq lasts held now
    have htake : (toBucket ⟨s.capacity.toBitVec, .every c⟩).take now.toNat =
        if tokens.toNat = 0 then
          (false, Cycle.toBucket s.capacity.toBitVec { c with tokens, since })
        else (true, { Cycle.toBucket s.capacity.toBitVec { c with tokens, since } with
          tokens := tokens.toNat - 1 }) := by
      unfold Bucket.take
      rw [show (toBucket ⟨s.capacity.toBitVec, .every c⟩).credit now.toNat = _ from hcredit_eq]
      rfl
    rw [htake]
    rcases Word.pred?_cases tokens with ⟨hpred, hnone⟩ | ⟨rest, hpred, hsome, hrest⟩
    · refine ⟨false, ⟨s.capacity.toBitVec, .every { c with tokens, since }⟩, ?_,
        .every hheld lasts, if_pos hnone⟩
      simp only [take?, hcredit, Option.map_some, hpred]
    · refine ⟨true, ⟨s.capacity.toBitVec, .every { c with tokens := rest, since }⟩, ?_,
        .every (Nat.le_trans (hrest ▸ Nat.sub_le _ _) hheld) lasts, ?_⟩
      · simp only [take?, hcredit, Option.map_some, hpred]
      · rw [if_neg hsome, ← hrest]
        rfl

/-- **The run**: by induction on the calls, call by call. -/
theorem run?_eq (hb : b.Sound s) (calls : List Time64) :
    ∃ answers after, b.run? calls = some (answers, after) ∧ after.Sound s ∧
      b.toBucket.run (calls.map Time64.toNat) = (answers, after.toBucket) := by
  induction calls generalizing b with
  | nil => exact ⟨[], b, rfl, hb, rfl⟩
  | cons now rest ih =>
    obtain ⟨admitted, next, htake, hnext, htake_eq⟩ := take?_eq hb now
    obtain ⟨answers, after, hrun, hafter, hrun_eq⟩ := ih hnext
    refine ⟨admitted :: answers, after, ?_, hafter, ?_⟩
    · show (b.take? now).bind _ = _
      rw [htake, Option.bind_some]
      show (next.run? rest).map _ = _
      rw [hrun, Option.map_some]
    · rw [List.map_cons, Bucket.run_cons, htake_eq, hrun_eq]

/-! ## Headline -/

/-- **Headline.**  A period lasts as many units as it has, or `2^64 - 1` seconds where that does not
fit into a time; so it is at least one unit long, unless it has none, and never shorter than a
period of fewer units.  The settings make the same bucket in words and of numbers.  After any calls
at any instants, the bucket in words has come to a result, which is that of the numbers; it holds no
more than its capacity, and at every instant its next credit is exact. -/
theorem exact_at_every_limit (s : ThrottleSettings) :
    (∀ (u : TimeUnit) (n : BitVec 64),
      (u.duration n).toNat = u.span n.toNat ∧
      (u.duration n).toNat =
        (if n.toNat * u.length < 2 ^ 64 * Duration.second then n.toNat * u.length
          else Duration.maxSeconds * Duration.second) ∧
      (0 < n.toNat → u.length ≤ (u.duration n).toNat) ∧
      ∀ m : BitVec 64, m.toNat ≤ n.toNat → (u.duration m).toNat ≤ (u.duration n).toNat) ∧
    ∀ created : Time64,
      (create s created).map toBucket = Bucket.create s created.toNat ∧
      ∀ b, create s created = .ok b → ∀ calls : List Time64,
        ∃ answers after, b.run? calls = some (answers, after) ∧
          b.toBucket.run (calls.map Time64.toNat) = (answers, after.toBucket) ∧
          after.toBucket.tokens ≤ s.capacity.toNat ∧
          ∀ c, after.refill = .every c → ∀ now : Time64, c.Exact s.capacity.toBitVec now := by
  constructor
  · intro u n
    have hspan : ∀ k : BitVec 64, (u.duration k).toNat = u.span k.toNat := u.toNat_duration
    refine ⟨hspan n, (hspan n).trans (u.span_eq_ite n.isLt), ?_, ?_⟩
    · intro hpos
      rw [hspan]
      exact u.length_le_span hpos
    · intro m hle
      rw [hspan, hspan]
      exact u.span_mono hle
  · intro created
    refine ⟨create_eq s created, fun b made calls => ?_⟩
    obtain ⟨answers, after, hrun, hafter, hrun_eq⟩ := run?_eq (create_sound made) calls
    refine ⟨answers, after, hrun, hrun_eq, hafter.held, ?_⟩
    intro c hc now
    exact Cycle.exact_of_lasts (hafter.lasts hc) _ now

/-- The largest bucket, refilled with as much as there is every nanosecond, and two calls: at the
last instant of the clock, and before it at the one at which the nanoseconds stop to fit into 64
bits. -/
theorem exact_at_every_limit_of_largest :
    let s : ThrottleSettings := ⟨4294967295, 4294967295, 1, .nanoseconds⟩
    let last : Time64 := ⟨.allOnes 64, 999999999, by decide⟩
    let full : Cycle := ⟨.allOnes 32, .ofNanos 1, .allOnes 32, .zero⟩
    let b : WordBucket := ⟨.allOnes 32, .every full⟩
    create s .zero = .ok b ∧ b.run? [] = some ([], b) ∧
    (full.periods last).toNat = 18446744073709551615999999999 ∧
    (full.added last).toNat = 18446744073709551615999999999 * 4294967295 ∧
    full.Exact (.allOnes 32) last ∧
    ∃ answers after, b.run? [⟨18446744073, 709551616, by decide⟩, last] = some (answers, after) ∧
      after.toBucket.tokens ≤ 4294967295 := by
  intro s last full b
  have made : create s .zero = .ok b := by cbv
  obtain ⟨-, hwords⟩ := exact_at_every_limit s
  obtain ⟨_, after, hrun, -, -, hexact⟩ := (hwords .zero).2 b made []
  obtain rfl : b = after := congrArg Prod.snd (Option.some.inj hrun)
  obtain ⟨answers, after, hrun', -, hheld, -⟩ := (hwords .zero).2 b made _
  exact ⟨made, rfl, by decide, by decide, hexact full rfl last, answers, after, hrun', hheld⟩

end WordBucket

end Turnstile

import Turnstile.Throttle
/-!
  What one call does to a token bucket, and what a run of calls keeps.

  1. **The two forms** (`Obeys`) — settings make a bucket that is never refilled or one whose
     interval lasts, and calls change its tokens and the start of its interval only.  Proofs about
     buckets split on these two forms.

  2. **Credit** (`credit_every`) — the two branches of `Bucket.credit` are one formula: with
     `ended = (now - since) / interval`, the bucket gains `ended * amount` up to its capacity and
     the start of the interval moves by `ended * interval`.  If no interval has ended, both are
     nothing.  `Recent` says what the credit achieves: the current interval has not ended yet.

  3. **A call** (`take_fst`, `take_snd`) — a call is the credit and then one token less, if there is
     one.  `toNat_add_tokens_take` is the account of it, from which the bounds on admissions come.

  4. **A run** (`run_append`, `run_obeys`) — runs split where lists of calls split, and a bucket
     goes on obeying its settings.
-/

namespace Turnstile.Bucket

/-! ## The two forms of a bucket -/

/-- A bucket that is never refilled, with so many tokens. -/
abbrev pool (s : ThrottleSettings) (tokens : Nat) : Bucket := ⟨s.capacity.toNat, tokens, .never⟩

/-- A bucket that is refilled, with so many tokens, in the interval that began at `since`. -/
abbrev periodic (s : ThrottleSettings) (tokens since : Nat) : Bucket :=
  ⟨s.capacity.toNat, tokens, .every s.refillTokens.toNat s.interval since⟩

/-- **Obeys**: the bucket is one that the settings make, in any state of its tokens and of its
interval. -/
inductive Obeys (s : ThrottleSettings) : Bucket → Prop
  | pool {tokens : Nat} (idle : s.capacity.toNat = 0 ∨ s.refillTokens.toNat = 0)
      (held : tokens ≤ s.capacity.toNat) : Obeys s (pool s tokens)
  | periodic {tokens since : Nat} (lasts : 0 < s.interval) (held : tokens ≤ s.capacity.toNat) :
      Obeys s (periodic s tokens since)

variable {s : ThrottleSettings} {b : Bucket}

/-- What settings make. -/
theorem create_cases {now : Nat} (made : create s now = .ok b) :
    (b = pool s s.capacity.toNat ∧ (s.capacity.toNat = 0 ∨ s.refillTokens.toNat = 0)) ∨
    (b = periodic s s.capacity.toNat now ∧ 0 < s.interval) := by
  have hzero : ∀ w : UInt32, w = 0 → w.toNat = 0 := by
    rintro w rfl
    exact UInt32.toNat_zero
  unfold create at made
  split at made
  · rename_i hidle
    injection made with hb
    exact Or.inl ⟨hb.symm, hidle.imp (hzero _) (hzero _)⟩
  · split at made
    · injection made
    · rename_i hT
      injection made with hb
      exact Or.inr ⟨hb.symm, Nat.pos_of_ne_zero hT⟩

theorem create_obeys {now : Nat} (made : create s now = .ok b) : Obeys s b := by
  rcases create_cases made with ⟨rfl, hidle⟩ | ⟨rfl, hT⟩
  · exact .pool hidle (Nat.le_refl _)
  · exact .periodic hT (Nat.le_refl _)

theorem Obeys.held (hb : Obeys s b) : b.tokens ≤ s.capacity.toNat := by
  cases hb <;> assumption

/-! ## The start of the current interval -/

theorem nextStart_zero (since now : Nat) : nextStart since 0 now = since := by
  unfold nextStart
  rw [if_pos (Nat.zero_le _), Nat.add_zero]

/-- The start moves at least by the intervals that have ended. -/
theorem add_le_nextStart {since span now : Nat} (h : span ≤ now - since) :
    since + span ≤ nextStart since span now := by
  unfold nextStart
  split
  · exact Nat.le_refl _
  · rename_i hlong
    have hpos : 0 < span := Nat.lt_of_le_of_lt (Nat.zero_le _) (Nat.lt_of_not_le hlong)
    omega

/-- The start never passes the present. -/
theorem nextStart_le {since span now : Nat} (h : span ≤ now - since) :
    nextStart since span now ≤ max since now := by
  unfold nextStart
  split <;> omega

/-- After the credit the current interval has not ended, also where it begins at the call. -/
theorem lt_nextStart_add {since interval now : Nat} (hT : 0 < interval) :
    now < nextStart since ((now - since) / interval * interval) now + interval := by
  have hrest : now - since < (now - since) / interval * interval + interval :=
    Nat.lt_div_mul_add hT
  unfold nextStart
  split <;> omega

/-! ## Credit -/

/-- **Credit as one formula.**  The branch in which no interval has ended is the case of zero
ended intervals. -/
theorem credit_every {capacity tokens amount interval since now : Nat} (held : tokens ≤ capacity) :
    (⟨capacity, tokens, .every amount interval since⟩ : Bucket).credit now =
      ⟨capacity, min (tokens + (now - since) / interval * amount) capacity,
        .every amount interval (nextStart since ((now - since) / interval * interval) now)⟩ := by
  by_cases hended : interval ≤ now - since
  · simp only [credit, if_pos hended]
  · have hzero : (now - since) / interval = 0 := Nat.div_eq_of_lt (Nat.lt_of_not_le hended)
    simp only [credit, if_neg hended, hzero, Nat.zero_mul, Nat.add_zero, nextStart_zero,
      Nat.min_eq_left held]

theorem credit_obeys (hb : Obeys s b) (now : Nat) : Obeys s (b.credit now) := by
  cases hb with
  | pool idle held => exact .pool idle held
  | periodic lasts held =>
    rw [credit_every held]
    exact .periodic lasts (Nat.min_le_right _ _)

/-- **Recent**: the current interval has not ended at `now`. -/
def Recent (b : Bucket) (now : Nat) : Prop :=
  match b.refill with
  | .never => True
  | .every _ interval since => now < since + interval

theorem credit_recent (hb : Obeys s b) (now : Nat) : (b.credit now).Recent now := by
  cases hb with
  | pool => trivial
  | periodic lasts held =>
    rw [credit_every held]
    exact lt_nextStart_add lasts

/-- A recent bucket has nothing to be credited. -/
theorem credit_of_recent (hb : Obeys s b) {now : Nat} (hr : b.Recent now) : b.credit now = b := by
  cases hb with
  | pool => rfl
  | @periodic tokens since lasts held =>
    have hlt : now < since + s.interval := hr
    simp only [credit, if_neg (show ¬ s.interval ≤ now - since by omega)]

/-! ## One call -/

/-- A call is admitted if the credited bucket has a token. -/
theorem take_fst (b : Bucket) (now : Nat) :
    (b.take now).1 = decide (0 < (b.credit now).tokens) := by
  unfold take
  by_cases h : (b.credit now).tokens = 0 <;> simp [h, Nat.pos_iff_ne_zero]

/-- The bucket after a call is the credited one with one token less, if it had one. -/
theorem take_snd (b : Bucket) (now : Nat) :
    (b.take now).2 = { b.credit now with tokens := (b.credit now).tokens - 1 } := by
  unfold take
  dsimp only
  split
  · rename_i hnone
    rw [hnone, Nat.zero_sub, ← hnone]
  · rfl

/-- **The account of a call**: what it takes and what it leaves are the credited tokens. -/
theorem toNat_add_tokens_take (b : Bucket) (now : Nat) :
    (b.take now).1.toNat + (b.take now).2.tokens = (b.credit now).tokens := by
  rw [take_fst, take_snd]
  by_cases h : 0 < (b.credit now).tokens
  · rw [decide_eq_true h]
    show 1 + ((b.credit now).tokens - 1) = (b.credit now).tokens
    omega
  · rw [decide_eq_false h]
    show 0 + ((b.credit now).tokens - 1) = (b.credit now).tokens
    omega

/-- A token less, and the bucket still obeys its settings. -/
theorem Obeys.spend (hb : Obeys s b) : Obeys s { b with tokens := b.tokens - 1 } := by
  cases hb with
  | pool idle held => exact .pool idle (Nat.le_trans (Nat.sub_le _ _) held)
  | periodic lasts held => exact .periodic lasts (Nat.le_trans (Nat.sub_le _ _) held)

theorem take_obeys (hb : Obeys s b) (now : Nat) : Obeys s (b.take now).2 := by
  rw [take_snd]
  exact (credit_obeys hb now).spend

/-- Crediting a bucket for the present in advance changes nothing about a call. -/
theorem take_credit (hb : Obeys s b) (now : Nat) : (b.credit now).take now = b.take now := by
  unfold take
  rw [credit_of_recent (credit_obeys hb now) (credit_recent hb now)]

/-! ## Runs of calls -/

theorem run_cons (b : Bucket) (now : Nat) (calls : List Nat) :
    b.run (now :: calls) =
      ((b.take now).1 :: ((b.take now).2.run calls).1, ((b.take now).2.run calls).2) := rfl

theorem run_append (b : Bucket) (calls more : List Nat) :
    b.run (calls ++ more) =
      ((b.run calls).1 ++ ((b.run calls).2.run more).1, ((b.run calls).2.run more).2) := by
  induction calls generalizing b with
  | nil => rfl
  | cons now calls ih => rw [List.cons_append, run_cons, ih, run_cons, List.cons_append]

theorem run_obeys (hb : Obeys s b) (calls : List Nat) : Obeys s (b.run calls).2 := by
  induction calls generalizing b with
  | nil => exact hb
  | cons now calls ih => exact ih (take_obeys hb now)

end Turnstile.Bucket

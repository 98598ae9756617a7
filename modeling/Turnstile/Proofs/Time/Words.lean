import Mathlib.Algebra.Group.Nat.Defs
import Turnstile.Time
/-!
  Times in words of a fixed width.

  `TimeUnit.span` and all that is built on it count nanoseconds without an end.  A time can also be
  kept in two words, one for the whole seconds and one for the nanoseconds beside them, and then
  every step of a computation can leave the range of its words.  This module says how such times are
  made, compared, subtracted and added, with a name for what happens where a result does not fit,
  and it reads each of them back as a number of nanoseconds.

  1. **Words** (`Word`) — a product that stops at the largest word, and sums, predecessors and
     narrower words that may be missing.  Each comes with the number it denotes, given that it fits.

  2. **Times** (`Time64`) — seconds and nanoseconds order times like their number
     (`Time64.le_iff`), borrow and carry are subtraction and addition of the number
     (`Time64.toNat_since`, `Time64.exists_add?`), and the number fits into 128 bits
     (`Time64.toNat_asNanos`).

  3. **Units** (`TimeUnit.toNat_duration`) — a period in words lasts as long as its `span`.  It is
     the number of units, or the most whole seconds where that does not fit
     (`TimeUnit.span_eq_ite`); so a longer period never turns into a shorter one.
-/

namespace Turnstile

/-! ## Words -/

namespace Word

variable {n : Nat}

/-- The product, or the largest word where the product does not fit. -/
def mulSat (a b : BitVec n) : BitVec n :=
  if BitVec.umulOverflow a b then .allOnes n else a * b

/-- The sum, if it fits. -/
def add? (a b : BitVec n) : Option (BitVec n) :=
  if BitVec.uaddOverflow a b then none else some (a + b)

/-- One less, unless nothing is left. -/
def pred? (a : BitVec n) : Option (BitVec n) := if a = 0 then none else some (a - 1)

/-- The smaller of two words. -/
def least (a b : BitVec n) : BitVec n := if a ≤ b then a else b

/-- The same number in `m` bits, if it fits. -/
def narrow? (m : Nat) (a : BitVec n) : Option (BitVec m) :=
  if a.toNat < 2 ^ m then some (a.setWidth m) else none

theorem toNat_mulSat (a b : BitVec n) :
    (mulSat a b).toNat = min (a.toNat * b.toNat) (2 ^ n - 1) := by
  unfold mulSat
  by_cases h : BitVec.umulOverflow a b = true
  · have hlarge : 2 ^ n ≤ a.toNat * b.toNat := of_decide_eq_true h
    rw [if_pos h, BitVec.toNat_allOnes, Nat.min_eq_right (by omega)]
  · have hfits : a.toNat * b.toNat < 2 ^ n := Nat.lt_of_not_le fun hlarge => h (decide_eq_true hlarge)
    rw [if_neg h, BitVec.toNat_mul_of_lt hfits, Nat.min_eq_left (by omega)]

theorem exists_add? {a b : BitVec n} (fits : a.toNat + b.toNat < 2 ^ n) :
    ∃ c, add? a b = some c ∧ c.toNat = a.toNat + b.toNat := by
  have hoverflow : ¬ BitVec.uaddOverflow a b = true := by
    unfold BitVec.uaddOverflow
    rw [decide_eq_true_iff]
    omega
  refine ⟨a + b, ?_, BitVec.toNat_add_of_lt fits⟩
  unfold add?
  rw [if_neg hoverflow]

theorem toNat_least (a b : BitVec n) : (least a b).toNat = min a.toNat b.toNat := by
  unfold least
  by_cases h : a ≤ b
  · rw [if_pos h, Nat.min_eq_left (BitVec.le_def.mp h)]
  · rw [if_neg h, Nat.min_eq_right (Nat.le_of_not_le (mt BitVec.le_def.mpr h))]

theorem exists_narrow? {m : Nat} {a : BitVec n} (fits : a.toNat < 2 ^ m) :
    ∃ c, narrow? m a = some c ∧ c.toNat = a.toNat := by
  refine ⟨a.setWidth m, if_pos fits, ?_⟩
  rw [BitVec.toNat_setWidth, Nat.mod_eq_of_lt fits]

theorem toNat_ofNat {k : Nat} (fits : k < 2 ^ n) : (BitVec.ofNat n k).toNat = k := by
  rw [BitVec.toNat_ofNat, Nat.mod_eq_of_lt fits]

theorem eq_zero_iff {a : BitVec n} : a = 0 ↔ a.toNat = 0 := by
  simp [← BitVec.toNat_inj]

/-- There is one to take, or nothing is left. -/
theorem pred?_cases (a : BitVec n) :
    (pred? a = none ∧ a.toNat = 0) ∨
      ∃ rest, pred? a = some rest ∧ a.toNat ≠ 0 ∧ rest.toNat = a.toNat - 1 := by
  unfold pred?
  by_cases h : a = 0
  · exact Or.inl ⟨if_pos h, eq_zero_iff.mp h⟩
  · have hpos : a.toNat ≠ 0 := mt eq_zero_iff.mpr h
    have hone : (1 : BitVec n).toNat = 1 :=
      toNat_ofNat (Nat.lt_of_le_of_lt (Nat.pos_of_ne_zero hpos) a.isLt)
    refine Or.inr ⟨a - 1, if_neg h, hpos, ?_⟩
    rw [BitVec.toNat_sub_of_le, hone]
    rw [BitVec.le_def, hone]
    exact Nat.pos_of_ne_zero hpos

end Word

/-! ## Times -/

/-- **A time in words**: whole seconds, and the nanoseconds beside them.  It is a duration, or an
instant as the time since the first one that the clock can show. -/
structure Time64 where
  secs : BitVec 64
  nanos : BitVec 32
  nanos_lt : nanos.toNat < 1000000000
  deriving DecidableEq, Repr

namespace Time64

/-- The nanoseconds of a time. -/
def toNat (t : Time64) : Nat := t.secs.toNat * Duration.second + t.nanos.toNat

theorem toNat_lt (t : Time64) : t.toNat < 2 ^ 64 * Duration.second := by
  have hsecs := t.secs.isLt
  have hnanos := t.nanos_lt
  unfold toNat Duration.second
  omega

/-- No time at all. -/
def zero : Time64 := ⟨0, 0, by decide⟩

/-- A time without nanoseconds. -/
def ofSecs (n : BitVec 64) : Time64 := ⟨n, 0, by decide⟩

theorem toNat_ofSecs (n : BitVec 64) : (ofSecs n).toNat = n.toNat * Duration.second :=
  Nat.add_zero _

/-- What is left of `n` parts of a second beside the whole seconds, in nanoseconds. -/
theorem toNat_rest {per each : Nat} (whole : per * each = 1000000000) (n : BitVec 64) :
    ((n % .ofNat 64 per).setWidth 32 * .ofNat 32 each : BitVec 32).toNat =
      n.toNat % per * each ∧ n.toNat % per * each < 1000000000 := by
  have hper : 0 < per := Nat.pos_of_mul_pos_right (whole ▸ by decide : 0 < per * each)
  have heach : 0 < each := Nat.pos_of_mul_pos_left (whole ▸ by decide : 0 < per * each)
  have hper_le : per ≤ 1000000000 := whole ▸ Nat.le_mul_of_pos_right per heach
  have heach_le : each ≤ 1000000000 := whole ▸ Nat.le_mul_of_pos_left each hper
  have hrest : n.toNat % per < per := Nat.mod_lt _ hper
  have hlt : n.toNat % per * each < 1000000000 :=
    whole ▸ Nat.mul_lt_mul_of_pos_right hrest heach
  refine ⟨?_, hlt⟩
  have hmod : (n % BitVec.ofNat 64 per).toNat = n.toNat % per := by
    rw [BitVec.toNat_umod, BitVec.toNat_ofNat, Nat.mod_eq_of_lt (show per < 2 ^ 64 by omega)]
  have hfactor : (BitVec.ofNat 32 each).toNat = each := by
    rw [BitVec.toNat_ofNat, Nat.mod_eq_of_lt (show each < 2 ^ 32 by omega)]
  have hnarrow : ((n % BitVec.ofNat 64 per).setWidth 32).toNat = n.toNat % per := by
    rw [BitVec.toNat_setWidth, hmod, Nat.mod_eq_of_lt (show n.toNat % per < 2 ^ 32 by omega)]
  rw [BitVec.toNat_mul_of_lt (by rw [hnarrow, hfactor]; omega), hnarrow, hfactor]

/-- `n` parts of a second, of which there are `per` in a second and each has `each` nanoseconds. -/
def ofParts (per each : Nat) (whole : per * each = 1000000000) (n : BitVec 64) : Time64 where
  secs := n / .ofNat 64 per
  nanos := (n % .ofNat 64 per).setWidth 32 * .ofNat 32 each
  nanos_lt := (toNat_rest whole n).1 ▸ (toNat_rest whole n).2

/-- `n` milliseconds. -/
def ofMillis : BitVec 64 → Time64 := ofParts 1000 1000000 rfl

/-- `n` microseconds. -/
def ofMicros : BitVec 64 → Time64 := ofParts 1000000 1000 rfl

/-- `n` nanoseconds. -/
def ofNanos : BitVec 64 → Time64 := ofParts 1000000000 1 rfl

/-- No number of parts is too large. -/
theorem toNat_ofParts {per each : Nat} (whole : per * each = 1000000000) (n : BitVec 64) :
    (ofParts per each whole n).toNat = n.toNat * each := by
  have heach : 0 < each := Nat.pos_of_mul_pos_left (whole ▸ by decide : 0 < per * each)
  have hper_le : per ≤ 1000000000 := whole ▸ Nat.le_mul_of_pos_right per heach
  have hsecs : (n / BitVec.ofNat 64 per).toNat = n.toNat / per := by
    rw [BitVec.toNat_udiv, BitVec.toNat_ofNat, Nat.mod_eq_of_lt (show per < 2 ^ 64 by omega)]
  show (n / BitVec.ofNat 64 per).toNat * Duration.second +
    ((n % BitVec.ofNat 64 per).setWidth 32 * BitVec.ofNat 32 each).toNat = _
  rw [hsecs, (toNat_rest whole n).1]
  calc n.toNat / per * Duration.second + n.toNat % per * each
      = (per * (n.toNat / per) + n.toNat % per) * each := by
        rw [show Duration.second = per * each from whole.symm, Nat.add_mul,
          Nat.mul_comm per (n.toNat / per), Nat.mul_assoc]
    _ = n.toNat * each := by rw [Nat.div_add_mod]

/-- The seconds decide first, and the nanoseconds between equal seconds. -/
instance : LE Time64 := ⟨fun a b => a.secs < b.secs ∨ a.secs = b.secs ∧ a.nanos ≤ b.nanos⟩

instance (a b : Time64) : Decidable (a ≤ b) :=
  inferInstanceAs (Decidable (a.secs < b.secs ∨ a.secs = b.secs ∧ a.nanos ≤ b.nanos))

theorem le_iff {a b : Time64} : a ≤ b ↔ a.toNat ≤ b.toNat := by
  have hdef : a ≤ b ↔ a.secs.toNat < b.secs.toNat ∨
      a.secs.toNat = b.secs.toNat ∧ a.nanos.toNat ≤ b.nanos.toNat := by
    show (_ ∨ a.secs = b.secs ∧ _) ↔ _
    rw [← BitVec.toNat_inj, BitVec.lt_def, BitVec.le_def]
  have ha := a.nanos_lt
  have hb := b.nanos_lt
  rw [hdef]
  unfold toNat Duration.second
  omega

/-- Whether no time passes. -/
def isZero (t : Time64) : Bool := t.secs = 0 && t.nanos = 0

theorem isZero_iff {t : Time64} : t.isZero = true ↔ t.toNat = 0 := by
  unfold isZero toNat Duration.second
  rw [Bool.and_eq_true, decide_eq_true_iff, decide_eq_true_iff, Word.eq_zero_iff, Word.eq_zero_iff]
  omega

/-- All the nanoseconds of a time, in one word. -/
def asNanos (t : Time64) : BitVec 128 := t.secs.setWidth 128 * 1000000000#128 + t.nanos.setWidth 128

theorem toNat_asNanos (t : Time64) : t.asNanos.toNat = t.toNat := by
  have hsecs : (t.secs.setWidth 128).toNat = t.secs.toNat := BitVec.toNat_setWidth_of_le (by decide)
  have hnanos : (t.nanos.setWidth 128).toNat = t.nanos.toNat :=
    BitVec.toNat_setWidth_of_le (by decide)
  have hfits : t.secs.toNat * 1000000000 + t.nanos.toNat < 2 ^ 128 :=
    Nat.lt_of_lt_of_le t.toNat_lt (by decide)
  have hsecond : (1000000000#128).toNat = 1000000000 := Word.toNat_ofNat (by decide)
  have hmul : (t.secs.setWidth 128 * 1000000000#128).toNat = t.secs.toNat * 1000000000 := by
    have hmul_fits := Nat.lt_of_le_of_lt (Nat.le_add_right _ _) hfits
    rw [BitVec.toNat_mul_of_lt (by rwa [hsecs, hsecond]), hsecs, hsecond]
  unfold asNanos toNat Duration.second
  rw [BitVec.toNat_add_of_lt (by rwa [hmul, hnanos]), hmul, hnanos]

/-- One second as a word of nanoseconds. -/
theorem toNat_second : (1000000000#32).toNat = 1000000000 := Word.toNat_ofNat (by decide)

/-- The nanoseconds that are left where one second has been borrowed for them. -/
theorem toNat_borrowed {a b : Time64} (h : a.nanos.toNat < b.nanos.toNat) :
    (a.nanos + 1000000000#32 - b.nanos).toNat = a.nanos.toNat + 1000000000 - b.nanos.toNat ∧
      a.nanos.toNat + 1000000000 - b.nanos.toNat < 1000000000 := by
  have ha := a.nanos_lt
  have hb := b.nanos_lt
  have hadd : (a.nanos + 1000000000#32).toNat = a.nanos.toNat + 1000000000 := by
    rw [BitVec.toNat_add_of_lt (by rw [toNat_second]; omega), toNat_second]
  constructor
  · rw [BitVec.toNat_sub_of_le, hadd]
    rw [BitVec.le_def, hadd]
    omega
  · omega

/-- The time from one instant to another, or no time if that is in the past. -/
def since (later earlier : Time64) : Time64 :=
  if earlier ≤ later then
    if h : earlier.nanos ≤ later.nanos then
      ⟨later.secs - earlier.secs, later.nanos - earlier.nanos, by
        rw [BitVec.toNat_sub_of_le h]
        exact Nat.lt_of_le_of_lt (Nat.sub_le _ _) later.nanos_lt⟩
    else
      ⟨later.secs - earlier.secs - 1, later.nanos + 1000000000#32 - earlier.nanos,
        lt_of_eq_of_lt (toNat_borrowed (Nat.lt_of_not_le h)).1
          (toNat_borrowed (Nat.lt_of_not_le h)).2⟩
  else zero

theorem toNat_since (later earlier : Time64) :
    (later.since earlier).toNat = later.toNat - earlier.toNat := by
  have hlater := later.nanos_lt
  have hearlier := earlier.nanos_lt
  unfold since
  by_cases hle : earlier ≤ later
  · have hnat := le_iff.mp hle
    unfold toNat Duration.second at hnat
    have hsecs : (later.secs - earlier.secs).toNat = later.secs.toNat - earlier.secs.toNat :=
      BitVec.toNat_sub_of_le (BitVec.le_def.mpr (by omega))
    rw [if_pos hle]
    by_cases hnanos : earlier.nanos ≤ later.nanos
    · have hsub := BitVec.toNat_sub_of_le hnanos
      have hnanos' := BitVec.le_def.mp hnanos
      rw [dif_pos hnanos]
      show (later.secs - earlier.secs).toNat * 1000000000 + (later.nanos - earlier.nanos).toNat =
        later.secs.toNat * 1000000000 + later.nanos.toNat -
          (earlier.secs.toNat * 1000000000 + earlier.nanos.toNat)
      rw [hsecs, hsub]
      omega
    · have hnanos' : later.nanos.toNat < earlier.nanos.toNat :=
        Nat.lt_of_not_le (mt BitVec.le_def.mpr hnanos)
      have hone : (later.secs - earlier.secs - 1).toNat =
          later.secs.toNat - earlier.secs.toNat - 1 := by
        rw [BitVec.toNat_sub_of_le, hsecs]
        · rfl
        · rw [BitVec.le_def, hsecs]
          show 1 ≤ _
          omega
      rw [dif_neg hnanos]
      show (later.secs - earlier.secs - 1).toNat * 1000000000 +
          (later.nanos + 1000000000#32 - earlier.nanos).toNat =
        later.secs.toNat * 1000000000 + later.nanos.toNat -
          (earlier.secs.toNat * 1000000000 + earlier.nanos.toNat)
      rw [hone, (toNat_borrowed hnanos').1]
      omega
  · have hnat := mt le_iff.mpr hle
    have hzero : zero.toNat = 0 := by decide
    rw [if_neg hle, hzero]
    omega

/-- The sum of the nanoseconds of two times fits. -/
theorem toNat_nanos_add (a b : Time64) :
    (a.nanos + b.nanos).toNat = a.nanos.toNat + b.nanos.toNat := by
  have ha := a.nanos_lt
  have hb := b.nanos_lt
  exact BitVec.toNat_add_of_lt (by omega)

/-- The nanoseconds that are left where one second of them has been carried. -/
theorem toNat_carried {a b : Time64} (h : ¬ (a.nanos + b.nanos).toNat < 1000000000) :
    (a.nanos + b.nanos - 1000000000#32).toNat = a.nanos.toNat + b.nanos.toNat - 1000000000 ∧
      a.nanos.toNat + b.nanos.toNat - 1000000000 < 1000000000 := by
  have ha := a.nanos_lt
  have hb := b.nanos_lt
  have hle : 1000000000#32 ≤ a.nanos + b.nanos := by
    rw [BitVec.le_def, toNat_second]
    omega
  constructor
  · rw [BitVec.toNat_sub_of_le hle, toNat_nanos_add, toNat_second]
  · omega

/-- The instant after some time, if the clock can show it. -/
def add? (a b : Time64) : Option Time64 :=
  (Word.add? a.secs b.secs).bind fun secs =>
    if h : (a.nanos + b.nanos).toNat < 1000000000 then some ⟨secs, a.nanos + b.nanos, h⟩
    else (Word.add? secs 1).map fun next =>
      ⟨next, a.nanos + b.nanos - 1000000000#32,
        lt_of_eq_of_lt (toNat_carried h).1 (toNat_carried h).2⟩

theorem exists_add? {a b : Time64} (fits : a.toNat + b.toNat < 2 ^ 64 * Duration.second) :
    ∃ c, a.add? b = some c ∧ c.toNat = a.toNat + b.toNat := by
  have ha := a.nanos_lt
  have hb := b.nanos_lt
  have hsum := toNat_nanos_add a b
  unfold toNat Duration.second at fits
  obtain ⟨secs, hsecs, hsecs_eq⟩ :=
    Word.exists_add? (show a.secs.toNat + b.secs.toNat < 2 ^ 64 by omega)
  unfold add?
  rw [hsecs, Option.bind_some]
  by_cases hcarry : (a.nanos + b.nanos).toNat < 1000000000
  · rw [dif_pos hcarry]
    refine ⟨_, rfl, ?_⟩
    show secs.toNat * 1000000000 + (a.nanos + b.nanos).toNat =
      a.secs.toNat * 1000000000 + a.nanos.toNat + (b.secs.toNat * 1000000000 + b.nanos.toNat)
    omega
  · obtain ⟨next, hnext, hnext_eq⟩ :=
      Word.exists_add? (a := secs) (b := 1) (by show secs.toNat + 1 < 2 ^ 64; omega)
    have hone : next.toNat = secs.toNat + 1 := hnext_eq
    have hrest := (toNat_carried hcarry).1
    rw [dif_neg hcarry, hnext, Option.map_some]
    refine ⟨_, rfl, ?_⟩
    show next.toNat * 1000000000 + (a.nanos + b.nanos - 1000000000#32).toNat =
      a.secs.toNat * 1000000000 + a.nanos.toNat + (b.secs.toNat * 1000000000 + b.nanos.toNat)
    omega

end Time64

/-! ## Units -/

/-- Seconds are counted in full, or stop at the most. -/
theorem Duration.ofSeconds_eq_ite (k : Nat) :
    ofSeconds k = if k * Duration.second < 2 ^ 64 * Duration.second then
      k * Duration.second else Duration.maxSeconds * Duration.second := by
  have hpos : 0 < Duration.second := by decide
  unfold ofSeconds
  by_cases h : k < 2 ^ 64
  · have hle : k ≤ Duration.maxSeconds := Nat.le_of_lt_succ h
    rw [if_pos (Nat.mul_lt_mul_of_pos_right h hpos), Nat.min_eq_left hle]
  · have hle : Duration.maxSeconds ≤ k := Nat.le_trans (by decide) (Nat.le_of_not_lt h)
    rw [if_neg (fun hlt => h (Nat.lt_of_mul_lt_mul_right hlt)), Nat.min_eq_right hle]

namespace TimeUnit

/-- The nanoseconds of one unit. -/
def length : TimeUnit → Nat
  | nanoseconds => 1
  | microseconds => Duration.microsecond
  | milliseconds => Duration.millisecond
  | seconds => Duration.second
  | minutes => 60 * Duration.second
  | hours => 3600 * Duration.second
  | days => 86400 * Duration.second

/-- `n` of a unit.  The seconds of minutes, hours and days stop at the largest word. -/
def duration (u : TimeUnit) (n : BitVec 64) : Time64 :=
  match u with
  | nanoseconds => .ofNanos n
  | microseconds => .ofMicros n
  | milliseconds => .ofMillis n
  | seconds => .ofSecs n
  | minutes => .ofSecs (Word.mulSat n 60)
  | hours => .ofSecs (Word.mulSat n 3600)
  | days => .ofSecs (Word.mulSat n 86400)

theorem toNat_duration (u : TimeUnit) (n : BitVec 64) : (u.duration n).toNat = u.span n.toNat := by
  have hmost : ∀ k : BitVec 64,
      (Time64.ofSecs (Word.mulSat n k)).toNat = Duration.ofSeconds (n.toNat * k.toNat) := by
    intro k
    rw [Time64.toNat_ofSecs, Word.toNat_mulSat]
    rfl
  cases u with
  | nanoseconds => exact (Time64.toNat_ofParts rfl n).trans (Nat.mul_one _)
  | microseconds => exact Time64.toNat_ofParts rfl n
  | milliseconds => exact Time64.toNat_ofParts rfl n
  | seconds =>
    have hle : n.toNat ≤ Duration.maxSeconds := Nat.le_of_lt_succ n.isLt
    show (Time64.ofSecs n).toNat = Duration.ofSeconds n.toNat
    rw [Time64.toNat_ofSecs, Duration.ofSeconds, Nat.min_eq_left hle]
  | minutes => exact hmost 60
  | hours => exact hmost 3600
  | days => exact hmost 86400

/-- **Saturation**: a period is the number of units, or the most whole seconds. -/
theorem span_eq_ite (u : TimeUnit) {n : Nat} (word : n < 2 ^ 64) :
    u.span n = if n * u.length < 2 ^ 64 * Duration.second then n * u.length
      else Duration.maxSeconds * Duration.second := by
  have hshort : ∀ each, each ≤ Duration.second → n * each < 2 ^ 64 * Duration.second :=
    fun each h => Nat.lt_of_le_of_lt (Nat.mul_le_mul_left n h)
      (Nat.mul_lt_mul_of_pos_right word (by decide))
  cases u with
  | nanoseconds => exact (Nat.mul_one n).symm.trans (if_pos (hshort 1 (by decide))).symm
  | microseconds => exact (if_pos (hshort _ (by decide))).symm
  | milliseconds => exact (if_pos (hshort _ (by decide))).symm
  | seconds => exact Duration.ofSeconds_eq_ite n
  | minutes | hours | days =>
    rw [length, ← Nat.mul_assoc]
    exact Duration.ofSeconds_eq_ite _

example : TimeUnit.days.duration (.allOnes 64) = .ofSecs (.allOnes 64) := by decide

theorem span_mono (u : TimeUnit) {n m : Nat} (h : n ≤ m) : u.span n ≤ u.span m := by
  cases u <;>
    simp only [span, Duration.ofSeconds, Duration.maxSeconds, Duration.second,
      Duration.millisecond, Duration.microsecond] <;>
    omega

/-- A period of at least one unit lasts at least that long. -/
theorem length_le_span (u : TimeUnit) {n : Nat} (h : 0 < n) : u.length ≤ u.span n := by
  have hone : u.span 1 = u.length := by cases u <;> rfl
  exact hone ▸ u.span_mono h

end TimeUnit

end Turnstile

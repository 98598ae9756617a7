import Mathlib.Algebra.Group.Nat.Defs
import Turnstile.Address.Cidr
/-!
  Which addresses lie in a range.

  1. **Specification** — an address is a number of 32 or 128 bits (`IpAddr.number`), and what stands
     in front of its last `k` bits is that number divided by `2 ^ k`.

  2. **The mask** (`toNat_and_mask`) — masking sets the last bits to zero, so two addresses are the
     same under a mask exactly if they are the same in front of those bits (`and_mask_eq_iff`).
     That holds for a mask of no bits at all, too.

  3. **One range** (`contains_iff`) — the addresses of the network's family that begin like it.

  4. **Headline** (`contains_of_parse?`) — a range that is read from a text counts no more bits than
     its addresses have, and holds exactly the addresses that begin like its network.
-/

namespace Turnstile

namespace IpAddr

/-- The bits of an address as a number. -/
def number : IpAddr → Nat
  | v4 bits => bits.toNat
  | v6 bits => bits.toNat

theorem number_lt (a : IpAddr) : a.number < 2 ^ a.width := by
  cases a with
  | v4 bits => exact bits.isLt
  | v6 bits => exact bits.isLt

/-- An address is known by its family and its number. -/
theorem eq_of_number_eq {a b : IpAddr} (hwidth : a.width = b.width) (h : a.number = b.number) :
    a = b := by
  cases a with
  | v4 x =>
    cases b with
    | v4 y => exact congrArg v4 (BitVec.eq_of_toNat_eq h)
    | v6 y => cases hwidth
  | v6 x =>
    cases b with
    | v4 y => cases hwidth
    | v6 y => exact congrArg v6 (BitVec.eq_of_toNat_eq h)

end IpAddr

namespace Cidr

/-! ## The mask -/

/-- **Masking** sets to zero what is behind the bits that count. -/
theorem toNat_and_mask {w : Nat} (x : BitVec w) (n : Nat) :
    (x &&& mask w n).toNat = x.toNat / 2 ^ (w - n) * 2 ^ (w - n) := by
  have hle : x.toNat / 2 ^ (w - n) * 2 ^ (w - n) ≤ x.toNat := Nat.div_mul_le_self _ _
  unfold mask
  rw [← BitVec.shiftLeft_ushiftRight, BitVec.toNat_shiftLeft, BitVec.toNat_ushiftRight,
    Nat.shiftRight_eq_div_pow, Nat.shiftLeft_eq, Nat.mod_eq_of_lt (Nat.lt_of_le_of_lt hle x.isLt)]

/-- Two words are the same under a mask exactly if they begin with the same bits. -/
theorem and_mask_eq_iff {w : Nat} (x y : BitVec w) (n : Nat) :
    x &&& mask w n = y &&& mask w n ↔ x.toNat / 2 ^ (w - n) = y.toNat / 2 ^ (w - n) := by
  rw [← BitVec.toNat_inj, toNat_and_mask, toNat_and_mask]
  exact Nat.mul_left_inj (Nat.ne_of_gt (Nat.two_pow_pos _))

/-! ## One range -/

/-- How many bits at the end of an address do not count. -/
def hostBits (r : Cidr) : Nat := r.network.width - r.length

/-- **One range** holds the addresses of its family that begin with the bits of its network. -/
theorem contains_iff (r : Cidr) (a : IpAddr) :
    r.contains a = true ↔ a.width = r.network.width ∧
      r.network.number / 2 ^ r.hostBits = a.number / 2 ^ r.hostBits := by
  obtain ⟨network, length⟩ := r
  unfold contains hostBits
  cases network with
  | v4 net =>
    cases a with
    | v4 addr => simpa [IpAddr.width, IpAddr.number] using and_mask_eq_iff net addr length
    | v6 addr => simp [IpAddr.width]
  | v6 net =>
    cases a with
    | v4 addr => simp [IpAddr.width]
    | v6 addr => simpa [IpAddr.width, IpAddr.number] using and_mask_eq_iff net addr length

/-- A text never denotes a range that counts more bits than there are. -/
theorem length_le_of_parse? {s : String} {r : Cidr} (h : parse? s = some r) :
    r.length ≤ r.network.width := by
  unfold parse? at h
  dsimp only at h
  split at h
  · obtain ⟨a, -, rfl⟩ := Option.map_eq_some_iff.mp h
    exact Nat.le_refl _
  · split at h
    · split at h
      · cases h
        assumption
      · cases h
    · cases h

/-- An address of a range may stand for its network: the bits behind are not looked at. -/
theorem contains_congr {r r' : Cidr} (hlength : r'.length = r.length)
    (hnetwork : r.contains r'.network = true) (a : IpAddr) : r'.contains a = r.contains a := by
  obtain ⟨hwidth, hbegin⟩ := (contains_iff r r'.network).mp hnetwork
  have hbits : r'.hostBits = r.hostBits := by
    unfold hostBits
    rw [hwidth, hlength]
  rw [Bool.eq_iff_iff, contains_iff, contains_iff, hwidth, hbits, hbegin]

/-- With fewer bits that count, a range holds what it held before. -/
theorem contains_of_shorter {r r' : Cidr} (hnetwork : r'.network = r.network)
    (hlength : r'.length ≤ r.length) {a : IpAddr} (h : r.contains a = true) :
    r'.contains a = true := by
  obtain ⟨hwidth, hbegin⟩ := (contains_iff r a).mp h
  -- the bits that count no longer are taken off those that counted
  have hbits : r'.hostBits = r.hostBits + (r'.hostBits - r.hostBits) := by
    unfold hostBits
    rw [hnetwork]
    omega
  refine (contains_iff r' a).mpr ⟨hnetwork ▸ hwidth, ?_⟩
  rw [hbits, Nat.pow_add, ← Nat.div_div_eq_div_mul, ← Nat.div_div_eq_div_mul, hnetwork, hbegin]

/-- Where no bit counts, the family alone does. -/
theorem contains_iff_of_length_zero {r : Cidr} (h : r.length = 0) (a : IpAddr) :
    r.contains a = true ↔ a.width = r.network.width := by
  rw [contains_iff, and_iff_left_iff_imp]
  intro hwidth
  have hnone (b : IpAddr) (hb : b.width = r.network.width) : b.number / 2 ^ r.hostBits = 0 := by
    unfold hostBits
    rw [h, Nat.sub_zero, ← hb]
    exact Nat.div_eq_of_lt b.number_lt
  rw [hnone _ rfl, hnone a hwidth]

/-- Where all bits count, a range is its network alone. -/
theorem contains_iff_of_length_width {r : Cidr} (h : r.length = r.network.width) (a : IpAddr) :
    r.contains a = true ↔ a = r.network := by
  have hbits : r.hostBits = 0 := by
    unfold hostBits
    rw [h, Nat.sub_self]
  rw [contains_iff, hbits, Nat.pow_zero, Nat.div_one, Nat.div_one]
  constructor
  · rintro ⟨hwidth, hnumber⟩
    exact IpAddr.eq_of_number_eq hwidth hnumber.symm
  · rintro rfl
    exact ⟨rfl, rfl⟩

/-! ## Headline -/

/-- **Headline.**  A range read from a text counts at most as many bits as its addresses have, and
holds exactly the addresses of the network's family that begin with the same bits.  So the bits
behind them are of no account: every range of this length whose network lies in this one holds the
same.  With no bit that counts it holds the whole family, and with all of them only the network; and
a range with the same network that counts fewer bits holds all that this one holds. -/
theorem contains_of_parse? {s : String} {r : Cidr} (h : parse? s = some r) :
    r.length ≤ r.network.width ∧
    (∀ a, r.contains a = true ↔ a.width = r.network.width ∧
      r.network.number / 2 ^ (r.network.width - r.length) =
        a.number / 2 ^ (r.network.width - r.length)) ∧
    (∀ r' : Cidr, r'.length = r.length → r'.network.width = r.network.width →
      r'.network.number / 2 ^ (r.network.width - r.length) =
        r.network.number / 2 ^ (r.network.width - r.length) →
      ∀ a, r'.contains a = r.contains a) ∧
    (r.length = 0 → ∀ a, r.contains a = true ↔ a.width = r.network.width) ∧
    (r.length = r.network.width → ∀ a, r.contains a = true ↔ a = r.network) ∧
    (∀ r' : Cidr, r'.network = r.network → r'.length ≤ r.length →
      ∀ a, r.contains a = true → r'.contains a = true) := by
  refine ⟨length_le_of_parse? h, contains_iff r, ?_, contains_iff_of_length_zero,
    contains_iff_of_length_width, ?_⟩
  · intro r' hlength hwidth hbegin
    exact contains_congr hlength ((contains_iff r r'.network).mpr ⟨hwidth, hbegin.symm⟩)
  · intro r' hnetwork hlength a
    exact contains_of_shorter hnetwork hlength

/-- A range with bits behind those that count, one that counts none, and one that counts all. -/
theorem contains_of_parse?_of_three :
    let r : Cidr := ⟨.v4 0x0A010203, 8⟩
    let whole : Cidr := ⟨.v6 1, 0⟩
    let single : Cidr := ⟨.v4 0xC0000201, 32⟩
    (parse? " 10.1.2.3/8" = some r ∧
      r.contains (.v4 0x0AFFFFFF) = true ∧ r.contains (.v4 0x0B010203) = false ∧
      (∀ a, (⟨.v4 0x0A000000, 8⟩ : Cidr).contains a = r.contains a) ∧
      ∀ a, r.contains a = true → (⟨.v4 0x0A010203, 7⟩ : Cidr).contains a = true) ∧
    (parse? "::1/0" = some whole ∧ whole.length = 0 ∧
      ∀ a, whole.contains a = true ↔ a.width = 128) ∧
    (parse? "192.0.2.1" = some single ∧ single.length = single.network.width ∧
      ∀ a, single.contains a = true ↔ a = .v4 0xC0000201) := by
  intro r whole single
  have hr : parse? " 10.1.2.3/8" = some r := by decide +kernel
  have hwhole : parse? "::1/0" = some whole := by decide +kernel
  have hsingle : parse? "192.0.2.1" = some single := by decide +kernel
  obtain ⟨-, hmember, hsame, -, -, hshorter⟩ := contains_of_parse? hr
  obtain ⟨-, -, -, hfamily, -, -⟩ := contains_of_parse? hwhole
  obtain ⟨-, -, -, -, halone, -⟩ := contains_of_parse? hsingle
  refine ⟨⟨hr, (hmember _).mpr (by decide), ?_, hsame ⟨.v4 0x0A000000, 8⟩ rfl rfl (by decide),
      hshorter ⟨.v4 0x0A010203, 7⟩ rfl (by decide)⟩,
    ⟨hwhole, rfl, hfamily rfl⟩, ⟨hsingle, rfl, halone rfl⟩⟩
  rw [← Bool.not_eq_true, hmember]
  decide

end Cidr

end Turnstile

import Mathlib.Data.List.Basic
import Turnstile.Proofs.Text.Bytes
import Turnstile.Settings.Load
/-!
  What is written into a variable is read from it.

  Each kind of setting has one way to write it, and the reader of that kind gives back what was
  written.

  1. **Numbers** (`numeral_toDigits`) — the decimal digits of a number below the bound are a numeral
     of that number.  The digits are read from the left, so the induction takes the last one off:
     what stands before it is the number divided by ten, which is below the bound as well.

  2. **Names** (`TimeUnit.parse_name`, `KeyRule.parse_name`).

  3. **Lists** (`listItems_commaText`) — items between commas, none of which is empty, holds a comma
     or has white space at its ends.
-/

namespace Turnstile

namespace Text

/-! ## Numbers -/

theorem digitValue_digitChar : ∀ d < 10, digitValue (Nat.digitChar d) = d := by decide

/-- Digits after digits are read on from the value of those. -/
theorem accumulate_append {bound n m : Nat} {t : List Char} (h : accumulate bound n t = .ok m)
    (r : List Char) : accumulate bound n (t ++ r) = accumulate bound m r := by
  induction t generalizing n with
  | nil =>
    injection h with h
    rw [List.nil_append, h]
  | cons c t ih =>
    rw [accumulate] at h
    rw [List.cons_append, accumulate]
    split at h
    · split at h
      · rename_i hdigit hlt
        rw [if_pos hdigit, if_pos hlt]
        exact ih h
      · cases h
    · cases h

/-- One digit more. -/
theorem accumulate_digitChar {bound n d : Nat} (hd : d < 10) (h : n * 10 + d < bound) :
    accumulate bound n [Nat.digitChar d] = .ok (n * 10 + d) := by
  have hdigit : (Nat.digitChar d).isDigit = true := by
    rw [Nat.isDigit_digitChar]
    exact decide_eq_true hd
  rw [accumulate, if_pos hdigit, digitValue_digitChar d hd, if_pos h, accumulate]

theorem accumulate_toDigits {bound n : Nat} (hn : n < bound) :
    accumulate bound 0 (Nat.toDigits 10 n) = .ok n := by
  induction n using Nat.strongRecOn with
  | ind n ih =>
    rcases Nat.lt_or_ge n 10 with hlt | hge
    · rw [Nat.toDigits_of_lt_base hlt, accumulate_digitChar hlt (by omega)]
      simp
    · have hfront : accumulate bound 0 (Nat.toDigits 10 (n / 10)) = .ok (n / 10) :=
        ih (n / 10) (by omega) (by omega)
      rw [Nat.toDigits_of_base_le (by omega) hge, accumulate_append hfront,
        accumulate_digitChar (Nat.mod_lt n (by omega)) (by omega)]
      congr 1
      omega

/-- A numeral may do without a sign. -/
theorem numeral_of_head {bound : Nat} {c : Char} {r : List Char} (hc : c ≠ '+') :
    numeral bound (c :: r) = accumulate bound 0 (c :: r) := by
  unfold numeral
  split
  · rename_i h; cases h
  · rename_i h; injection h with h; exact absurd h hc
  · rename_i h; injection h with h; exact absurd h hc
  · rfl

/-- The decimal digits of a number below the bound are a numeral of it. -/
theorem numeral_toDigits {bound n : Nat} (hn : n < bound) :
    numeral bound (Nat.toDigits 10 n) = .ok n := by
  have hread := accumulate_toDigits hn
  cases hdigits : Nat.toDigits 10 n with
  | nil => exact absurd hdigits Nat.toDigits_ne_nil
  | cons c r =>
    have hdigit : c.isDigit = true :=
      Nat.isDigit_of_mem_toDigits (by omega) (by omega) (hdigits ▸ List.mem_cons_self)
    have hsign : c ≠ '+' := by
      rintro rfl
      cases hdigit
    rw [hdigits] at hread
    rw [numeral_of_head hsign, hread]

theorem uint16_toDigits (n : UInt16) : uint16 (Nat.toDigits 10 n.toNat) = .ok n := by
  have hlt : n.toNat < bound16 := n.toNat_lt
  rw [uint16, numeral_toDigits hlt]
  exact congrArg Except.ok UInt16.ofNat_toNat

theorem uint32_toDigits (n : UInt32) : uint32 (Nat.toDigits 10 n.toNat) = .ok n := by
  have hlt : n.toNat < bound32 := n.toNat_lt
  rw [uint32, numeral_toDigits hlt]
  exact congrArg Except.ok UInt32.ofNat_toNat

theorem uint64_toDigits (n : UInt64) : uint64 (Nat.toDigits 10 n.toNat) = .ok n := by
  have hlt : n.toNat < bound64 := n.toNat_lt
  rw [uint64, numeral_toDigits hlt]
  exact congrArg Except.ok UInt64.ofNat_toNat

end Text

/-! ## Durations -/

theorem Duration.millis_ofMillis (n : Nat) : millis (ofMillis n) = n :=
  Nat.mul_div_cancel n (by decide)

theorem Duration.secs_mul_second (n : Nat) : secs (n * second) = n :=
  Nat.mul_div_cancel n (by decide)

/-! ## Names and lists -/

theorem TimeUnit.parse_name (u : TimeUnit) : parse u.name = .ok u := by
  cases u <;> rfl

theorem KeyRule.parse_name (r : KeyRule) : parse r.name = .ok r := by
  cases r <;> rfl

namespace Environment

open Text

/-- A parser of numerals reads a number in decimal digits. -/
theorem inWords_toString {α : Type} {parse : List Char → Except NumeralError α} {n : Nat} {a : α}
    (h : parse (Nat.toDigits 10 n) = .ok a) : inWords parse (toString n) = .ok a := by
  have hdigits : (toString n).toList = Nat.toDigits 10 n := Nat.toList_repr
  unfold inWords
  rw [hdigits, h]

/-- An item that a list gives back: it is not empty, no white space stands at its ends, and it holds
no comma. -/
structure IsItem (item : String) : Prop where
  ne_empty : item ≠ ""
  trimmed : trim item.toList = item.toList
  comma : ',' ∉ item.toList

instance : DecidablePred IsItem := fun item =>
  decidable_of_iff (item ≠ "" ∧ trim item.toList = item.toList ∧ ',' ∉ item.toList)
    ⟨fun h => ⟨h.1, h.2.1, h.2.2⟩, fun h => ⟨h.ne_empty, h.trimmed, h.comma⟩⟩

/-- Items with commas between them. -/
def commaText (items : List String) : String :=
  String.ofList ([','].intercalate (items.map String.toList))

/-- Apart from commas, the text of a list has the characters of its items only. -/
theorem not_mem_commaText {c : Char} (hc : c ≠ ',') {items : List String}
    (h : ∀ item ∈ items, c ∉ item.toList) : c ∉ (commaText items).toList := by
  unfold commaText
  rw [String.toList_ofList]
  induction items with
  | nil => exact List.not_mem_nil
  | cons item rest ih =>
    have hitem : c ∉ item.toList := h item List.mem_cons_self
    have hrest := ih fun i hi => h i (List.mem_cons_of_mem _ hi)
    cases rest with
    | nil => simpa [List.intercalate] using hitem
    | cons next more =>
      rw [List.map_cons, List.map_cons, List.intercalate_cons_cons]
      simp only [List.mem_append, List.mem_singleton, not_or]
      exact ⟨⟨hitem, hc⟩, hrest⟩

/-- A list of items comes back from its text. -/
theorem listItems_commaText {items : List String} (h : ∀ item ∈ items, IsItem item) :
    listItems (commaText items) = items := by
  by_cases hnil : items = []
  · rw [hnil]
    rfl
  have hpieces : split ',' ([','].intercalate (items.map String.toList)) =
      items.map String.toList := by
    refine split_intercalate (by simpa using hnil) fun piece hpiece => ?_
    obtain ⟨item, hitem, rfl⟩ := List.mem_map.mp hpiece
    exact (h item hitem).comma
  have htrim : (items.map String.toList).map trim = items.map String.toList := by
    rw [List.map_map]
    exact List.map_congr_left fun item hitem => (h item hitem).trimmed
  have hkept : (items.map String.toList).filter (!·.isEmpty) = items.map String.toList := by
    refine List.filter_eq_self.mpr fun piece hpiece => ?_
    obtain ⟨item, hitem, rfl⟩ := List.mem_map.mp hpiece
    simpa using (h item hitem).ne_empty
  have hback : (items.map String.toList).map String.ofList = items := by
    rw [List.map_map]
    exact List.map_id'' (fun item => String.ofList_toList) items
  unfold listItems commaText
  rw [String.toList_ofList, hpieces, htrim, hkept, hback]

end Environment

end Turnstile

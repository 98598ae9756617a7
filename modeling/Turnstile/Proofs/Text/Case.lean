import Mathlib
import Turnstile.Text.Blank
import Turnstile.Text.Split
/-!
  The case of letters.

  1. **Letters** (`toLower_eq_iff`, `HasNoLetter.toLower`) — what is no letter has no case and is not the
     lower case of anything else, so a class of characters without letters does not see the case.

  2. **Passes over a text** (`dropEndWhile_lower`, `trim_lower`, `before_lower`) — it does not matter
     whether a text is put in lower case before it is trimmed and cut, or after.
-/

namespace Turnstile.Text

/-! ## Letters -/

theorem not_isUpper_of_not_isAlpha {c : Char} (h : c.isAlpha = false) : ¬ c.isUpper = true := by
  intro hupper
  rw [Char.isAlpha, hupper, Bool.true_or] at h
  cases h

/-- What is no letter has no case, and is not the lower case of anything else. -/
theorem toLower_eq_iff {c d : Char} (hd : d.isAlpha = false) : c.toLower = d ↔ c = d := by
  constructor
  · intro h
    have hc : c.isAlpha = false := by rw [← Char.isAlpha_toLower_eq_isAlpha, h, hd]
    rw [← h, Char.toLower_eq_of_not_isUpper (not_isUpper_of_not_isAlpha hc)]
  · rintro rfl
    exact Char.toLower_eq_of_not_isUpper (not_isUpper_of_not_isAlpha hd)

/-- **No letter**: a class of characters that has none. -/
def HasNoLetter (p : Char → Bool) : Prop := ∀ c : Char, c.isAlpha = true → p c = false

/-- A class without letters does not see the case. -/
theorem HasNoLetter.toLower {p : Char → Bool} (hp : HasNoLetter p) (c : Char) :
    p c.toLower = p c := by
  cases h : c.isAlpha with
  | true =>
    have hlow : c.toLower.isAlpha = true := by rw [Char.isAlpha_toLower_eq_isAlpha, h]
    rw [hp c h, hp c.toLower hlow]
  | false => rw [Char.toLower_eq_of_not_isUpper (not_isUpper_of_not_isAlpha h)]

theorem toNat_of_isAlpha {c : Char} (h : c.isAlpha = true) : 65 ≤ c.toNat ∧ c.toNat ≤ 122 := by
  simp only [Char.isAlpha, Char.isUpper, Char.isLower, Bool.or_eq_true, Bool.and_eq_true,
    decide_eq_true_eq, ge_iff_le, UInt32.le_iff_toNat_le, Char.reduceVal, UInt32.reduceToNat,
    Char.toNat_val] at h
  omega

theorem hasNoLetter_isBlank : HasNoLetter isBlank := by
  intro c hc
  have hrange := toNat_of_isAlpha hc
  unfold isBlank
  simp only [Bool.or_eq_false_iff, Bool.and_eq_false_iff, decide_eq_false_iff_not,
    beq_eq_false_iff_ne]
  omega

theorem hasNoLetter_isDigit : HasNoLetter Char.isDigit := by
  intro c hc
  have hrange := toNat_of_isAlpha hc
  simp only [Char.isDigit, Bool.and_eq_false_iff, decide_eq_false_iff_not, ge_iff_le,
    UInt32.le_iff_toNat_le, Char.reduceVal, UInt32.reduceToNat, Char.toNat_val]
  omega

theorem hasNoLetter_eq {d : Char} (hd : d.isAlpha = false) : HasNoLetter (· = d) := by
  intro c hc
  refine decide_eq_false ?_
  rintro rfl
  rw [hc] at hd
  cases hd

/-! ## Passes over a text -/

theorem lower_lower (t : List Char) : lower (lower t) = lower t := by
  unfold lower
  rw [List.map_map]
  exact List.map_congr_left fun c _ => Char.toLower_toLower_eq_toLower c

theorem lower_append (s t : List Char) : lower (s ++ t) = lower s ++ lower t := List.map_append

theorem dropWhile_lower {p : Char → Bool} (hp : HasNoLetter p) (t : List Char) :
    (lower t).dropWhile p = lower (t.dropWhile p) := by
  have hcomp : p ∘ Char.toLower = p := funext hp.toLower
  unfold lower
  rw [List.dropWhile_map, hcomp]

theorem dropEndWhile_lower {p : Char → Bool} (hp : HasNoLetter p) (t : List Char) :
    dropEndWhile p (lower t) = lower (dropEndWhile p t) := by
  have hreverse (s : List Char) : (lower s).reverse = lower s.reverse := List.map_reverse.symm
  unfold dropEndWhile
  rw [hreverse, dropWhile_lower hp, hreverse]

theorem trim_lower (t : List Char) : trim (lower t) = lower (trim t) := by
  unfold trim
  rw [dropWhile_lower hasNoLetter_isBlank, dropEndWhile_lower hasNoLetter_isBlank]

theorem before_lower {sep : Char} (hsep : sep.isAlpha = false) (t : List Char) :
    before sep (lower t) = lower (before sep t) := by
  have hcomp : (fun c => decide (c ≠ sep)) ∘ Char.toLower = fun c => decide (c ≠ sep) := by
    funext c
    exact decide_eq_decide.mpr (not_congr (toLower_eq_iff hsep))
  unfold before lower
  rw [List.takeWhile_map, hcomp]

/-- The case of its last character does not matter to what is no letter. -/
theorem getLast?_lower_eq_iff {d : Char} (hd : d.isAlpha = false) (t : List Char) :
    (lower t).getLast? = some d ↔ t.getLast? = some d := by
  have hmap : (lower t).getLast? = t.getLast?.map Char.toLower := List.getLast?_map
  rw [hmap, Option.map_eq_some_iff]
  constructor
  · rintro ⟨c, hc, hlow⟩
    rwa [(toLower_eq_iff hd).mp hlow] at hc
  · intro h
    exact ⟨d, h, (toLower_eq_iff hd).mpr rfl⟩

end Turnstile.Text

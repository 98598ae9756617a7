import Mathlib.Data.List.DropRight
import Mathlib.Data.List.TakeWhile
import Turnstile.Text.Blank
/-!
  What is dropped at the ends of a text.

  1. **Dropping at the end** (`dropEndWhile_append`) — of two texts in a row, the first one is touched
     only if nothing is left of the second.

  2. **Trimming** (`isEmpty_trim`, `trim_wrapped`) — when nothing is left of a text, and what is left
     of a text without white space at its ends (`Unpadded`) when white space is put around it.
-/

namespace Turnstile.Text

/-! ## Dropping at the end -/

variable {p : Char → Bool}

theorem dropEndWhile_eq_nil_iff {t : List Char} :
    dropEndWhile p t = [] ↔ ∀ c ∈ t, p c = true :=
  List.rdropWhile_eq_nil_iff

/-- The end of two texts in a row is that of the second one, as long as there is any left. -/
theorem dropEndWhile_append (p : Char → Bool) (a b : List Char) :
    dropEndWhile p (a ++ b) =
      if dropEndWhile p b = [] then dropEndWhile p a else a ++ dropEndWhile p b := by
  have hnil : (b.reverse.dropWhile p).isEmpty = true ↔ dropEndWhile p b = [] := by
    rw [List.isEmpty_iff, ← List.reverse_eq_nil_iff]
    exact Iff.rfl
  show ((a ++ b).reverse.dropWhile p).reverse = _
  rw [List.reverse_append, List.dropWhile_append]
  by_cases hb : dropEndWhile p b = []
  · rw [if_pos hb, if_pos (hnil.mpr hb)]
    rfl
  · rw [if_neg hb, if_neg fun h => hb (hnil.mp h), List.reverse_append, List.reverse_reverse]
    rfl

theorem dropEndWhile_append_of_forall {b : List Char} (a : List Char) (h : ∀ c ∈ b, p c = true) :
    dropEndWhile p (a ++ b) = dropEndWhile p a := by
  rw [dropEndWhile_append, if_pos (dropEndWhile_eq_nil_iff.mpr h)]

/-- A text stays whole if its last character does. -/
theorem dropEndWhile_eq_self {t : List Char} (h : ∀ c ∈ t.getLast?, p c = false) :
    dropEndWhile p t = t := by
  refine List.rdropWhile_eq_self_iff.mpr fun hne => ?_
  rw [h _ (List.getLast?_eq_some_getLast hne)]
  exact Bool.false_ne_true

/-- What ends with a character that stays is kept in front of any other text. -/
theorem dropEndWhile_append_of_last {a : List Char} (h : ∀ c ∈ a.getLast?, p c = false)
    (b : List Char) : dropEndWhile p (a ++ b) = a ++ dropEndWhile p b := by
  rw [dropEndWhile_append]
  split
  · rename_i hb
    rw [dropEndWhile_eq_self h, hb, List.append_nil]
  · rfl

/-! ## Trimming -/

theorem isBlank_of_isDigit {c : Char} (h : c.isDigit = true) : isBlank c = false := by
  have hrange : 48 ≤ c.toNat ∧ c.toNat ≤ 57 := by
    simpa only [Char.isDigit, Bool.and_eq_true, decide_eq_true_eq, ge_iff_le,
      UInt32.le_iff_toNat_le, Char.reduceVal, UInt32.reduceToNat, Char.toNat_val] using h
  unfold isBlank
  simp only [Bool.or_eq_false_iff, Bool.and_eq_false_iff, decide_eq_false_iff_not,
    beq_eq_false_iff_ne]
  omega

/-- A text is trimmed away exactly if all of it is white space. -/
theorem isEmpty_trim (t : List Char) : (trim t).isEmpty = t.all isBlank := by
  -- what is dropped in front is white space, so all is if the rest is
  have hsplit : t.all isBlank = (t.dropWhile isBlank).all isBlank :=
    calc t.all isBlank
      _ = (t.takeWhile isBlank ++ t.dropWhile isBlank).all isBlank := by
          rw [List.takeWhile_append_dropWhile]
      _ = (t.dropWhile isBlank).all isBlank := by
          rw [List.all_append, List.all_takeWhile, Bool.true_and]
  rw [Bool.eq_iff_iff, List.isEmpty_iff, hsplit, List.all_eq_true]
  exact dropEndWhile_eq_nil_iff

theorem trim_cons {c : Char} (hc : isBlank c = true) (t : List Char) : trim (c :: t) = trim t := by
  unfold trim
  rw [List.dropWhile_cons_of_pos hc]

/-- **Unpadded**: there is no white space at the two ends. -/
structure Unpadded (t : List Char) : Prop where
  head : ∀ c ∈ t.head?, isBlank c = false
  last : ∀ c ∈ t.getLast?, isBlank c = false

theorem unpadded_iff (t : List Char) :
    Unpadded t ↔ t.head?.any isBlank = false ∧ t.getLast?.any isBlank = false := by
  have hany (o : Option Char) : o.any isBlank = false ↔ ∀ c ∈ o, isBlank c = false := by
    cases o with
    | none => simp
    | some c => simp
  rw [hany, hany]
  exact ⟨fun h => ⟨h.head, h.last⟩, fun h => ⟨h.1, h.2⟩⟩

instance (t : List Char) : Decidable (Unpadded t) := decidable_of_iff' _ (unpadded_iff t)

theorem Unpadded.of_forall {t : List Char} (h : ∀ c ∈ t, isBlank c = false) : Unpadded t :=
  ⟨fun c hc => h c (List.mem_of_mem_head? hc), fun c hc => h c (List.mem_of_mem_getLast? hc)⟩

/-- What is put after a text without white space at its ends may have none itself. -/
theorem Unpadded.append {t more : List Char} (ht : Unpadded t)
    (hmore : ∀ c ∈ more, isBlank c = false) : Unpadded (t ++ more) := by
  cases t with
  | nil => exact .of_forall hmore
  | cons d r =>
    constructor
    · intro c hc
      exact ht.head c hc
    · intro c hc
      rw [List.getLast?_append] at hc
      cases hlast : more.getLast? with
      | none =>
        rw [hlast, Option.none_or] at hc
        exact ht.last c hc
      | some e =>
        rw [hlast, Option.some_or] at hc
        obtain rfl : e = c := Option.some.inj hc
        exact hmore e (List.mem_of_mem_getLast? hlast)

/-- **White space around a text is all that is trimmed away.** -/
theorem trim_wrapped {front t back : List Char} (hfront : ∀ c ∈ front, isBlank c = true)
    (hback : ∀ c ∈ back, isBlank c = true) (ht : Unpadded t) : trim (front ++ t ++ back) = t := by
  cases t with
  | nil =>
    have hall : (trim (front ++ [] ++ back)).isEmpty = true := by
      rw [isEmpty_trim, List.append_nil, List.all_append, List.all_eq_true.mpr hfront,
        List.all_eq_true.mpr hback]
      rfl
    exact List.isEmpty_iff.mp hall
  | cons d r =>
    have hd : ¬ isBlank d = true := by
      rw [ht.head d rfl]
      exact Bool.false_ne_true
    have hdrop : (front ++ d :: r ++ back).dropWhile isBlank = d :: r ++ back := by
      rw [List.append_assoc, List.dropWhile_append_of_pos hfront, List.cons_append,
        List.dropWhile_cons_of_neg hd]
    unfold trim
    rw [hdrop, dropEndWhile_append_of_forall _ hback, dropEndWhile_eq_self ht.last]

theorem trim_of_unpadded {t : List Char} (ht : Unpadded t) : trim t = t := by
  have hnone : ∀ c ∈ ([] : List Char), isBlank c = true := fun c hc => absurd hc List.not_mem_nil
  simpa using trim_wrapped hnone hnone ht

end Turnstile.Text

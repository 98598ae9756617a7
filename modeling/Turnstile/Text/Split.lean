/-!
  Splitting text at a separator.

  `split` cuts at every separator and keeps empty pieces, so that joining the pieces again gives the
  text back (`intercalate_split`), and pieces without separator come back from the text that joins
  them (`split_intercalate`).  `cut` and `cutLast` cut once, at the first and at the last separator.
-/

namespace Turnstile.Text

/-- The pieces of a text between the separators; a text without separator is one piece. -/
def split (sep : Char) : List Char → List (List Char)
  | [] => [[]]
  | c :: r =>
    if c = sep then [] :: split sep r
    else match split sep r with
      | [] => [[c]]
      | piece :: pieces => (c :: piece) :: pieces

theorem split_ne_nil (sep : Char) (t : List Char) : split sep t ≠ [] := by
  cases t with
  | nil => simp [split]
  | cons c r =>
    unfold split
    split
    · simp
    · split <;> simp

/-- Joining the pieces with the separator gives the text back. -/
theorem intercalate_split (sep : Char) (t : List Char) : [sep].intercalate (split sep t) = t := by
  induction t with
  | nil => simp [split, List.intercalate]
  | cons c r ih =>
    obtain ⟨piece, pieces, h⟩ := List.exists_cons_of_ne_nil (split_ne_nil sep r)
    rw [h] at ih
    by_cases hc : c = sep
    · simp [split, hc, h, List.intercalate] at ih ⊢
      exact ih
    · cases pieces with
      | nil => simp [split, hc, h, List.intercalate] at ih ⊢; exact ih
      | cons p ps => simp [split, hc, h, List.intercalate] at ih ⊢; exact ih

/-- Different texts have different pieces. -/
theorem eq_of_split_eq {sep : Char} {s t : List Char} (h : split sep s = split sep t) : s = t := by
  rw [← intercalate_split sep s, h, intercalate_split]

/-- A separator ends a piece, whatever stands before and after it. -/
theorem split_append_sep (sep : Char) (a b : List Char) :
    split sep (a ++ sep :: b) = split sep a ++ split sep b := by
  induction a with
  | nil => simp [split]
  | cons c r ih =>
    obtain ⟨piece, pieces, h⟩ := List.exists_cons_of_ne_nil (split_ne_nil sep r)
    rw [h] at ih
    by_cases hc : c = sep
    · simp [split, hc, ih, h]
    · simp [split, hc, ih, h]

theorem split_of_not_mem {sep : Char} {t : List Char} (h : sep ∉ t) : split sep t = [t] := by
  induction t with
  | nil => rfl
  | cons c r ih =>
    rw [List.mem_cons, not_or] at h
    simp [split, Ne.symm h.1, ih h.2]

/-- No piece holds the separator. -/
theorem not_mem_of_mem_split {sep : Char} {t p : List Char} (hp : p ∈ split sep t) : sep ∉ p := by
  induction t generalizing p with
  | nil => simp_all [split]
  | cons c r ih =>
    obtain ⟨piece, pieces, h⟩ := List.exists_cons_of_ne_nil (split_ne_nil sep r)
    rw [h] at ih
    by_cases hc : c = sep
    · simp only [split, if_pos hc, h, List.mem_cons] at hp
      rcases hp with rfl | hp
      · exact List.not_mem_nil
      · exact ih (List.mem_cons.mpr hp)
    · simp only [split, if_neg hc, h, List.mem_cons] at hp
      rcases hp with rfl | hp
      · rw [List.mem_cons, not_or]
        exact ⟨Ne.symm hc, ih List.mem_cons_self⟩
      · exact ih (List.mem_cons_of_mem _ hp)

/-- A piece has characters of the text only. -/
theorem mem_of_mem_split {sep c : Char} {t p : List Char} (hp : p ∈ split sep t) (hc : c ∈ p) :
    c ∈ t := by
  induction t generalizing p with
  | nil =>
    rw [split, List.mem_singleton] at hp
    rwa [hp] at hc
  | cons d r ih =>
    obtain ⟨piece, pieces, h⟩ := List.exists_cons_of_ne_nil (split_ne_nil sep r)
    by_cases hd : d = sep
    · simp only [split, if_pos hd, List.mem_cons] at hp
      rcases hp with rfl | hp
      · cases hc
      · exact List.mem_cons_of_mem _ (ih hp hc)
    · simp only [split, if_neg hd, h, List.mem_cons] at hp
      rcases hp with rfl | hp
      · rcases List.mem_cons.mp hc with rfl | hc
        · exact List.mem_cons_self
        · exact List.mem_cons_of_mem _ (ih (h ▸ List.mem_cons_self) hc)
      · exact List.mem_cons_of_mem _ (ih (h ▸ List.mem_cons_of_mem _ hp) hc)

/-- Pieces without separator come back from the text that joins them. -/
theorem split_intercalate {sep : Char} {pieces : List (List Char)} (hne : pieces ≠ [])
    (hsep : ∀ p ∈ pieces, sep ∉ p) : split sep ([sep].intercalate pieces) = pieces := by
  induction pieces with
  | nil => exact absurd rfl hne
  | cons p rest ih =>
    have hp : split sep p = [p] := split_of_not_mem (hsep p List.mem_cons_self)
    cases rest with
    | nil => simpa [List.intercalate] using hp
    | cons q rest =>
      have hrest := ih (by simp) fun s hs => hsep s (List.mem_cons_of_mem _ hs)
      rw [List.intercalate_cons_cons, List.append_assoc, List.singleton_append, split_append_sep,
        hp, hrest]
      rfl

/-- The text before and after the first separator. -/
def cut (sep : Char) : List Char → Option (List Char × List Char)
  | [] => none
  | c :: r => if c = sep then some ([], r) else (cut sep r).map fun (a, b) => (c :: a, b)

/-- The text before and after the last separator. -/
def cutLast (sep : Char) (t : List Char) : Option (List Char × List Char) :=
  (cut sep t.reverse).map fun (b, a) => (a.reverse, b.reverse)

/-- What stands before the first separator is cut off. -/
theorem cut_append {sep : Char} {a : List Char} (h : sep ∉ a) (b : List Char) :
    cut sep (a ++ sep :: b) = some (a, b) := by
  induction a with
  | nil => simp [cut]
  | cons c r ih =>
    rw [List.mem_cons, not_or] at h
    rw [List.cons_append, cut, if_neg (Ne.symm h.1), ih h.2]
    rfl

theorem eq_of_cut_eq_some {sep : Char} {t a b : List Char} (h : cut sep t = some (a, b)) :
    t = a ++ sep :: b := by
  induction t generalizing a with
  | nil => cases h
  | cons c r ih =>
    by_cases hc : c = sep
    · rw [cut, if_pos hc] at h
      obtain ⟨rfl, rfl⟩ : [] = a ∧ r = b := by simpa using h
      rw [hc, List.nil_append]
    · rw [cut, if_neg hc] at h
      obtain ⟨⟨front, back⟩, hcut, hpair⟩ := Option.map_eq_some_iff.mp h
      obtain ⟨rfl, rfl⟩ : c :: front = a ∧ back = b := by simpa using hpair
      rw [ih hcut, List.cons_append]

/-- What stands after the last separator is cut off. -/
theorem cutLast_append {sep : Char} {b : List Char} (a : List Char) (h : sep ∉ b) :
    cutLast sep (a ++ sep :: b) = some (a, b) := by
  have hback : (a ++ sep :: b).reverse = b.reverse ++ sep :: a.reverse := by simp
  have hb : sep ∉ b.reverse := fun hmem => h (List.mem_reverse.mp hmem)
  unfold cutLast
  rw [hback, cut_append hb]
  show some (a.reverse.reverse, b.reverse.reverse) = some (a, b)
  rw [List.reverse_reverse, List.reverse_reverse]

theorem eq_of_cutLast_eq_some {sep : Char} {t a b : List Char}
    (h : cutLast sep t = some (a, b)) : t = a ++ sep :: b := by
  obtain ⟨⟨back, front⟩, hcut, hpair⟩ := Option.map_eq_some_iff.mp h
  obtain ⟨rfl, rfl⟩ : front.reverse = a ∧ back.reverse = b := by simpa using hpair
  rw [← List.reverse_reverse t, eq_of_cut_eq_some hcut]
  simp

/-- The text before the first separator, the whole text if there is none. -/
def before (sep : Char) (t : List Char) : List Char := t.takeWhile (· ≠ sep)

/-- The first piece is the text before the first separator. -/
theorem split_eq_before_cons (sep : Char) (t : List Char) :
    ∃ more, split sep t = before sep t :: more := by
  induction t with
  | nil => exact ⟨[], rfl⟩
  | cons c r ih =>
    obtain ⟨more, h⟩ := ih
    by_cases hc : c = sep
    · exact ⟨split sep r, by simp [split, before, hc]⟩
    · refine ⟨more, ?_⟩
      rw [split, if_neg hc, h]
      simp [before, hc]

theorem not_mem_before (sep : Char) (t : List Char) : sep ∉ before sep t := by
  obtain ⟨more, h⟩ := split_eq_before_cons sep t
  exact not_mem_of_mem_split (h ▸ List.mem_cons_self)

/-- What stands before the first separator, of a text that goes on with one or ends. -/
theorem before_append {sep : Char} {a b : List Char} (ha : sep ∉ a)
    (hb : ∀ c ∈ b.head?, c = sep) : before sep (a ++ b) = a := by
  have hall : ∀ c ∈ a, decide (c ≠ sep) = true := fun c hc =>
    decide_eq_true fun heq => ha (heq ▸ hc)
  unfold before
  rw [List.takeWhile_append_of_pos hall]
  cases b with
  | nil => simp
  | cons c r => simp [hb c rfl]

theorem before_intercalate {sep : Char} {p : List Char} (pieces : List (List Char)) (hp : sep ∉ p) :
    before sep ([sep].intercalate (p :: pieces)) = p := by
  cases pieces with
  | nil =>
    have hwhole : before sep (p ++ []) = p := before_append hp (by simp)
    rw [List.append_nil] at hwhole
    rw [List.intercalate_singleton, hwhole]
  | cons q rest =>
    rw [List.intercalate_cons_cons, List.append_assoc]
    exact before_append hp (by simp)

/-- After what stands before the first separator, a text goes on with one or ends. -/
theorem exists_eq_before_append (sep : Char) (t : List Char) :
    ∃ rest, t = before sep t ++ rest ∧ ∀ c ∈ rest.head?, c = sep := by
  induction t with
  | nil => exact ⟨[], rfl, by simp⟩
  | cons c r ih =>
    by_cases hc : c = sep
    · exact ⟨c :: r, by simp [before, hc], by simp [hc]⟩
    · obtain ⟨rest, hr, hrest⟩ := ih
      have hbefore : before sep (c :: r) = c :: before sep r := by simp [before, hc]
      exact ⟨rest, by rw [hbefore, List.cons_append, ← hr], hrest⟩

example : split '.' "a..b.".toList = ["a".toList, [], "b".toList, []] := by decide
example : cutLast ':' "::1:80".toList = some ("::1".toList, "80".toList) := by decide

end Turnstile.Text

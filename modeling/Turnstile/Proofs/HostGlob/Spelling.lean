import Turnstile.Proofs.HostGlob.Name
/-!
  Spellings of a host, and of a pattern, that mean the same.

  1. **Bare hosts** (`Bare`) — no colon, no bracket in front, no white space around.  Dots after such a
     host, and a colon with digits after the dots, leave the compared name what it is
     (`comparedName_dots`, `comparedName_port`), also if there is no digit, no dot or nothing but
     dots.

  2. **Patterns** (`parse_wrapped`) — likewise for dots after a pattern, and for white space around
     both.

  3. **Headline** (`spelling_of_host_and_pattern`) — so whether a host is accepted does not depend on
     its port, on dots at its end or on the case of either text.
-/

namespace Turnstile.HostGlob

open Text

/-! ## Bare hosts -/

/-- **Bare**: a host without a port, brackets and white space around it. -/
structure Bare (host : List Char) : Prop where
  colon : ':' ∉ host
  bracket : host.head? ≠ some '['
  unpadded : Unpadded host

/-- Dots, colons and digits after a bare host are no reason to trim it, or to take it for bracketed. -/
theorem Bare.comparedName_append {host tail : List Char} (h : Bare host)
    (htail : ∀ c ∈ tail, c = '.' ∨ c = ':' ∨ c.isDigit = true) :
    comparedName (host ++ tail) = lower (dropEndWhile (· = '.') (portless (host ++ tail))) := by
  have hblank : ∀ c ∈ tail, isBlank c = false := by
    intro c hc
    rcases htail c hc with rfl | rfl | hdigit
    · rfl
    · rfl
    · exact isBlank_of_isDigit hdigit
  have hbracket : '[' ∉ tail := by
    intro hopen
    rcases htail '[' hopen with hdot | hcolon | hdigit
    · exact absurd hdot (by decide)
    · exact absurd hcolon (by decide)
    · exact absurd hdigit (by decide)
  have hhead : (host ++ tail).head? ≠ some '[' := by
    cases host with
    | nil => exact fun hopen => hbracket (List.mem_of_mem_head? hopen)
    | cons c r => exact h.bracket
  unfold comparedName
  rw [trim_of_unpadded (h.unpadded.append hblank), withoutPort_eq_portless hhead]

theorem dropEndWhile_dots (t : List Char) (n : Nat) :
    dropEndWhile (· = '.') (t ++ List.replicate n '.') = dropEndWhile (· = '.') t :=
  dropEndWhile_append_of_forall t fun _ hc => decide_eq_true (List.eq_of_mem_replicate hc)

/-- **Dots at the end do not count.** -/
theorem comparedName_dots {host : List Char} (h : Bare host) (n : Nat) :
    comparedName (host ++ List.replicate n '.') = lower (dropEndWhile (· = '.') host) := by
  have hcolon : ':' ∉ host ++ List.replicate n '.' := by
    intro hc
    rcases List.mem_append.mp hc with hc | hc
    · exact h.colon hc
    · exact absurd (List.eq_of_mem_replicate hc) (by decide)
  rw [h.comparedName_append fun c hc => .inl (List.eq_of_mem_replicate hc),
    portless_of_not_mem hcolon, dropEndWhile_dots]

/-- **A port does not count**, whatever its digits are. -/
theorem comparedName_port {host digits : List Char} (h : Bare host) (n : Nat)
    (hdigits : ∀ c ∈ digits, c.isDigit = true) :
    comparedName (host ++ List.replicate n '.' ++ ':' :: digits) =
      lower (dropEndWhile (· = '.') host) := by
  have htail : ∀ c ∈ List.replicate n '.' ++ ':' :: digits,
      c = '.' ∨ c = ':' ∨ c.isDigit = true := by
    intro c hc
    rcases List.mem_append.mp hc with hdot | hport
    · exact .inl (List.eq_of_mem_replicate hdot)
    · exact .inr ((List.mem_cons.mp hport).imp_right (hdigits c))
  rw [List.append_assoc, h.comparedName_append htail, ← List.append_assoc, portless_port _ hdigits,
    dropEndWhile_dots]

/-! ## Patterns -/

/-- The labels of a pattern are cut from it in lower case. -/
theorem labels_parse (s : List Char) :
    (parse (String.ofList s)).labels =
      (split '.' (dropEndWhile (· = '.') (trim (lower s)))).map label := by
  unfold parse labelsOf
  rw [String.toList_ofList, trim_lower, dropEndWhile_lower (hasNoLetter_eq (by decide))]

theorem parse_congr {s t : List Char} (h : lower s = lower t) :
    parse (String.ofList s) = parse (String.ofList t) := by
  rw [mk.injEq, labels_parse, labels_parse, h]

/-- **Dots after a pattern, and white space around both, do not count.** -/
theorem parse_wrapped {front t back : List Char} (ht : Unpadded t) (n : Nat)
    (hfront : ∀ c ∈ front, isBlank c = true) (hback : ∀ c ∈ back, isBlank c = true) :
    parse (String.ofList (front ++ (t ++ List.replicate n '.') ++ back)) =
      parse (String.ofList t) := by
  have hdots : Unpadded (t ++ List.replicate n '.') := by
    refine ht.append fun c hc => ?_
    rw [List.eq_of_mem_replicate hc]
    rfl
  unfold parse labelsOf
  rw [String.toList_ofList, String.toList_ofList, trim_wrapped hfront hback hdots,
    trim_of_unpadded ht, dropEndWhile_dots]

/-! ## Headline -/

/-- **Headline.**  Whether a bare host is accepted does not change if its letters are put in another
case, dots are put after it, and a port after the dots.  And a pattern without white space at its
ends stays the same if its letters are put in another case, dots after it and white space around
both. -/
theorem spelling_of_host_and_pattern (pattern : String) :
    (∀ (host variant digits : List Char) (n : Nat), Bare host → lower variant = lower host →
      (∀ c ∈ digits, c.isDigit = true) →
      (parse pattern).accepts (variant ++ List.replicate n '.' ++ ':' :: digits) =
        (parse pattern).accepts (variant ++ List.replicate n '.') ∧
      (parse pattern).accepts (variant ++ List.replicate n '.') =
        (parse pattern).accepts host) ∧
    (∀ (variant front back : List Char) (n : Nat), Unpadded pattern.toList →
      lower variant = lower pattern.toList →
      (∀ c ∈ front, isBlank c = true) → (∀ c ∈ back, isBlank c = true) →
      parse (String.ofList (front ++ (variant ++ List.replicate n '.') ++ back)) =
        parse pattern) := by
  constructor
  · intro host variant digits n hbare hcase hdigits
    -- the case of the host does not count, so what follows it may follow the host itself
    have hfollowed (tail : List Char) :
        comparedName (variant ++ tail) = comparedName (host ++ tail) := by
      refine comparedName_congr ?_
      rw [lower_append, hcase, ← lower_append]
    have hhost : comparedName host = lower (dropEndWhile (· = '.') host) := by
      have hnone := comparedName_dots hbare 0
      rwa [List.replicate_zero, List.append_nil] at hnone
    have hdots : comparedName (variant ++ List.replicate n '.') = comparedName host := by
      rw [hfollowed, comparedName_dots hbare, hhost]
    have hport : comparedName (variant ++ List.replicate n '.' ++ ':' :: digits) =
        comparedName host := by
      rw [List.append_assoc, hfollowed, ← List.append_assoc, comparedName_port hbare n hdigits,
        hhost]
    exact ⟨accepts_congr (hport.trans hdots.symm) _, accepts_congr hdots _⟩
  · intro variant front back n hends hcase hfront hback
    have hlower : lower (front ++ (variant ++ List.replicate n '.') ++ back) =
        lower (front ++ (pattern.toList ++ List.replicate n '.') ++ back) := by
      simp only [lower_append, hcase]
    rw [parse_congr hlower, parse_wrapped hends n hfront hback, String.ofList_toList]

/-- A host and a pattern, each in another case, with dots and a port or white space after it. -/
theorem spelling_of_host_and_pattern_of_abc :
    let pattern := "**.abc.org"
    let host := "www.abc.org".toList
    let variant := "WWW.abc.ORG".toList
    let digits := "8080".toList
    let variant' := "**.ABC.org".toList
    Bare host ∧ lower variant = lower host ∧ (∀ c ∈ digits, c.isDigit = true) ∧
    (parse pattern).accepts (variant ++ List.replicate 2 '.' ++ ':' :: digits) =
      (parse pattern).accepts (variant ++ List.replicate 2 '.') ∧
    (parse pattern).accepts (variant ++ List.replicate 2 '.') = (parse pattern).accepts host ∧
    Unpadded pattern.toList ∧ lower variant' = lower pattern.toList ∧
    (∀ c ∈ [' ', '\t'], isBlank c = true) ∧ (∀ c ∈ ['\u00a0'], isBlank c = true) ∧
    parse (String.ofList ([' ', '\t'] ++ (variant' ++ List.replicate 1 '.') ++ ['\u00a0'])) =
      parse pattern ∧
    (parse pattern).accepts host = true := by
  intro pattern host variant digits variant'
  have hbare : Bare host := ⟨by decide, by decide, by decide⟩
  have hcase : lower variant = lower host := by decide
  have hdigits : ∀ c ∈ digits, c.isDigit = true := List.all_eq_true.mp (by decide)
  have hends : Unpadded pattern.toList := by decide
  have hcase' : lower variant' = lower pattern.toList := by decide
  have hfront : ∀ c ∈ [' ', '\t'], isBlank c = true := List.all_eq_true.mp (by decide)
  have hback : ∀ c ∈ ['\u00a0'], isBlank c = true := List.all_eq_true.mp (by decide)
  obtain ⟨hhosts, hpatterns⟩ := spelling_of_host_and_pattern pattern
  obtain ⟨hport, hdots⟩ := hhosts host variant digits 2 hbare hcase hdigits
  exact ⟨hbare, hcase, hdigits, hport, hdots, hends, hcase', hfront, hback,
    hpatterns variant' _ _ 1 hends hcase' hfront hback, by decide⟩

end Turnstile.HostGlob

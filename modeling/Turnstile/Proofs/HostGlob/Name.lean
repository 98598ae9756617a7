import Turnstile.HostGlob
import Turnstile.Proofs.Text.Case
import Turnstile.Proofs.Text.Ends
/-!
  What of a host is compared with a pattern.

  1. **The compared name** (`comparedName`) — a pattern sees of a host one name only
     (`accepts_iff`): what is left without white space, port, dots at the end and case.

  2. **Ports** (`portless`) — a final colon with nothing but digits after it, said without looking for
     the last colon.  A host that does not begin with a bracket loses exactly that
     (`withoutPort_eq_portless`); one that does is cut at the closing bracket instead.

  3. **Case** (`comparedName_lower`) — brackets, colons, digits, dots and white space are no letters,
     so the name is that of the host in lower case.
-/

namespace Turnstile.HostGlob

open Text

/-! ## The compared name -/

/-- **The compared name**: a host without what does not count. -/
def comparedName (host : List Char) : List Char :=
  lower (dropEndWhile (· = '.') (withoutPort (trim host)))

theorem lower_eq_nil_iff {t : List Char} : lower t = [] ↔ t = [] := List.map_eq_nil_iff

/-- A pattern sees nothing of a host but the compared name. -/
theorem accepts_iff {g : HostGlob} {host : List Char} :
    g.accepts host = true ↔
      comparedName host ≠ [] ∧ matchLabels g.labels (split '.' (comparedName host)) = true := by
  unfold accepts
  dsimp only
  rw [Bool.and_eq_true, Bool.not_eq_true', List.isEmpty_eq_false_iff]
  exact and_congr_left' (not_congr lower_eq_nil_iff.symm)

theorem accepts_congr {host host' : List Char} (h : comparedName host = comparedName host')
    (g : HostGlob) : g.accepts host = g.accepts host' := by
  rw [Bool.eq_iff_iff, accepts_iff, accepts_iff, h]

/-! ## Ports -/

/-- **Portless**: a text without a colon and digits at its end. -/
def portless (t : List Char) : List Char :=
  let front := dropEndWhile Char.isDigit t
  if front.getLast? = some ':' then front.dropLast else t

theorem dropEndWhile_port (name : List Char) {digits : List Char}
    (h : ∀ c ∈ digits, c.isDigit = true) :
    dropEndWhile Char.isDigit (name ++ ':' :: digits) = name ++ [':'] := by
  have hname : name ++ ':' :: digits = name ++ [':'] ++ digits := by simp
  rw [hname, dropEndWhile_append_of_forall _ h]
  refine dropEndWhile_eq_self fun c hc => ?_
  rw [List.getLast?_concat] at hc
  cases hc
  rfl

theorem portless_port (name : List Char) {digits : List Char}
    (h : ∀ c ∈ digits, c.isDigit = true) : portless (name ++ ':' :: digits) = name := by
  unfold portless
  dsimp only
  rw [dropEndWhile_port name h, List.getLast?_concat, if_pos rfl, List.dropLast_concat]

/-- A text is kept if it has no colon with digits at its end. -/
theorem portless_eq_self {t : List Char}
    (h : ∀ name digits : List Char, (∀ c ∈ digits, c.isDigit = true) → t ≠ name ++ ':' :: digits) :
    portless t = t := by
  refine if_neg fun hlast => ?_
  obtain ⟨digits, ht, hdigits⟩ := exists_eq_dropEndWhile_append Char.isDigit t
  obtain ⟨name, hname⟩ := List.getLast?_eq_some_iff.mp hlast
  rw [hname, List.append_assoc] at ht
  exact h name digits hdigits ht

theorem portless_of_not_mem {t : List Char} (h : ':' ∉ t) : portless t = t := by
  refine portless_eq_self fun name digits _ ht => h ?_
  rw [ht]
  exact List.mem_append_right _ List.mem_cons_self

theorem withoutPort_of_head {t : List Char} (h : t.head? ≠ some '[') :
    withoutPort t =
      match cutLast ':' t with
      | some (name, port) => if port.all Char.isDigit then name else t
      | none => t := by
  unfold withoutPort
  split
  · exact absurd rfl h
  · rfl

/-- Digits stand after the last colon exactly if a text ends in a colon and digits. -/
theorem withoutPort_eq_portless {t : List Char} (h : t.head? ≠ some '[') :
    withoutPort t = portless t := by
  rw [withoutPort_of_head h]
  by_cases hport : ∃ name digits : List Char,
      (∀ c ∈ digits, c.isDigit = true) ∧ t = name ++ ':' :: digits
  · obtain ⟨name, digits, hdigits, rfl⟩ := hport
    -- digits are no colons, so this colon is the last one
    have hcolon : ':' ∉ digits := fun hmem => absurd (hdigits ':' hmem) (by decide)
    rw [cutLast_append name hcolon, portless_port name hdigits]
    exact if_pos (List.all_eq_true.mpr hdigits)
  · rw [portless_eq_self fun name digits hdigits ht => hport ⟨name, digits, hdigits, ht⟩]
    cases hcut : cutLast ':' t with
    | none => rfl
    | some parts =>
      obtain ⟨name, digits⟩ := parts
      refine if_neg fun hall => hport ⟨name, digits, List.all_eq_true.mp hall, ?_⟩
      exact eq_of_cutLast_eq_some hcut

/-! ## Case -/

theorem portless_lower (t : List Char) : portless (lower t) = lower (portless t) := by
  unfold portless
  dsimp only
  rw [dropEndWhile_lower hasNoLetter_isDigit]
  by_cases hlast : (dropEndWhile Char.isDigit t).getLast? = some ':'
  · rw [if_pos hlast, if_pos ((getLast?_lower_eq_iff (by decide) _).mpr hlast)]
    exact List.map_dropLast.symm
  · rw [if_neg hlast, if_neg fun h => hlast ((getLast?_lower_eq_iff (by decide) _).mp h)]

theorem withoutPort_lower (t : List Char) : withoutPort (lower t) = lower (withoutPort t) := by
  by_cases h : t.head? = some '['
  · obtain ⟨r, rfl⟩ : ∃ r, t = '[' :: r := by
      cases t with
      | nil => cases h
      | cons c r =>
        obtain rfl : c = '[' := Option.some.inj h
        exact ⟨r, rfl⟩
    exact before_lower (by decide) r
  · have hlow : (lower t).head? ≠ some '[' := by
      intro hhead
      have hmap : (lower t).head? = t.head?.map Char.toLower := List.head?_map
      obtain ⟨c, hc, hbracket⟩ := Option.map_eq_some_iff.mp (hmap ▸ hhead)
      rw [(toLower_eq_iff (by decide)).mp hbracket] at hc
      exact h hc
    rw [withoutPort_eq_portless h, withoutPort_eq_portless hlow, portless_lower]

/-- **The case of a host does not count.** -/
theorem comparedName_lower (host : List Char) : comparedName (lower host) = comparedName host := by
  unfold comparedName
  rw [trim_lower, withoutPort_lower, dropEndWhile_lower (hasNoLetter_eq (by decide)), lower_lower]

theorem comparedName_congr {host host' : List Char} (h : lower host = lower host') :
    comparedName host = comparedName host' := by
  rw [← comparedName_lower host, h, comparedName_lower]

end Turnstile.HostGlob

import Turnstile.Proofs.Text.Ends
import Turnstile.Text.Split
/-!
  Lists in one line of text.

  An entry (`entries`) is what stands between commas, without the white space around it; what is
  nothing but white space is no entry.  A comma parts entries (`entries_comma`), so a list that is
  put after another one has the entries of both.
-/

namespace Turnstile.Text

/-- The entries of a list. -/
def entries (t : List Char) : List (List Char) := ((split ',' t).map trim).filter (!·.isEmpty)

/-- A comma parts entries. -/
theorem entries_comma (a b : List Char) : entries (a ++ ',' :: b) = entries a ++ entries b := by
  unfold entries
  rw [split_append_sep, List.map_append, List.filter_append]

/-- White space is no entry. -/
theorem entries_of_blank {t : List Char} (h : (trim t).isEmpty = true) : entries t = [] := by
  have hcomma : ',' ∉ t := by
    intro hmem
    rw [isEmpty_trim, List.all_eq_true] at h
    exact absurd (h ',' hmem) (by decide)
  unfold entries
  rw [split_of_not_mem hcomma]
  simp only [List.map_cons, List.map_nil, List.filter_cons, h]
  rfl

/-- Text without commas and white space is one entry. -/
theorem entries_of_entry {t : List Char} (hne : t ≠ []) (hcomma : ',' ∉ t)
    (hblank : ∀ c ∈ t, isBlank c = false) : entries t = [t] := by
  unfold entries
  rw [split_of_not_mem hcomma, List.map_cons, trim_of_unpadded (.of_forall hblank)]
  simp [hne]

/-- A space after the comma belongs to no entry. -/
theorem entries_space (t : List Char) : entries (' ' :: t) = entries t := by
  obtain ⟨more, hsplit⟩ := split_eq_before_cons ',' t
  have hspace : split ',' (' ' :: t) = (' ' :: before ',' t) :: more := by
    rw [split, if_neg (by decide), hsplit]
  unfold entries
  rw [hspace, hsplit, List.map_cons, List.map_cons, trim_cons (by decide)]

end Turnstile.Text

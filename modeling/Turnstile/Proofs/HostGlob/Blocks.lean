import Mathlib.Data.List.Forall2
import Turnstile.HostGlob
/-!
  What a pattern says about the labels of a host.

  1. **Program** — `matchLabels` goes through the pattern from the left; at a `**` it tries every tail
     of the host, the whole host first.

  2. **Specification** (`Covers`) — the host is cut into consecutive blocks, one for each label of the
     pattern, and each label stands for its block (`HostLabel.Stands`): `**` for any block, `*` for
     one label, anything else for itself.  Nothing is said about the order in which cuts are tried.

  3. **The crux** (`matchLabels_iff_covers`) — one induction on the pattern, for every host: what is
     tried at a `**` is what any block leaves over (`anyTail_iff`), the empty one and the whole host
     included.

  4. **Headline** (`matchLabels_cuts`) — the program decides the specification.  The specification can
     be parted at any place (`covers_append`) and be read from the right (`covers_reverse`), which
     the program does not show: so a `**` next to a `**` adds nothing, wherever they stand, and a
     pattern and a host may be reversed together.
-/

namespace Turnstile

/-! ## Specification -/

/-- **Stands for**: the blocks of labels that a label of a pattern admits. -/
def HostLabel.Stands : HostLabel → List (List Char) → Prop
  | .many, _ => True
  | .one, block => block.length = 1
  | .exactly text, block => block = [text]

/-- A label does not see the order of the labels that it stands for. -/
theorem HostLabel.Stands.reverse {l : HostLabel} {block : List (List Char)} (h : l.Stands block) :
    l.Stands block.reverse := by
  cases l with
  | many => trivial
  | one =>
    show block.reverse.length = 1
    rw [List.length_reverse]
    exact h
  | exactly text =>
    obtain rfl : block = [text] := h
    rfl

namespace HostGlob

open HostLabel

/-- **Covers**: the host falls into blocks for which the labels stand, one after the other. -/
def Covers (pattern : List HostLabel) (host : List (List Char)) : Prop :=
  ∃ blocks : List (List (List Char)), List.Forall₂ Stands pattern blocks ∧ blocks.flatten = host

theorem covers_nil {host : List (List Char)} : Covers [] host ↔ host = [] := by
  constructor
  · rintro ⟨blocks, hstands, rfl⟩
    rw [List.forall₂_nil_left_iff.mp hstands]
    rfl
  · rintro rfl
    exact ⟨[], .nil, rfl⟩

/-- The first label stands for the first block, and the others cover what is left. -/
theorem covers_cons {l : HostLabel} {pattern : List HostLabel} {host : List (List Char)} :
    Covers (l :: pattern) host ↔
      ∃ block rest, l.Stands block ∧ Covers pattern rest ∧ block ++ rest = host := by
  constructor
  · rintro ⟨blocks, hstands, rfl⟩
    obtain ⟨block, more, hblock, hmore, rfl⟩ := List.forall₂_cons_left_iff.mp hstands
    exact ⟨block, more.flatten, hblock, ⟨more, hmore, rfl⟩, List.flatten_cons.symm⟩
  · rintro ⟨block, rest, hblock, ⟨more, hmore, rfl⟩, rfl⟩
    exact ⟨block :: more, .cons hblock hmore, List.flatten_cons⟩

/-- Two patterns in a row cover two parts of the host. -/
theorem covers_append {front back : List HostLabel} {host : List (List Char)} :
    Covers (front ++ back) host ↔
      ∃ first rest, Covers front first ∧ Covers back rest ∧ first ++ rest = host := by
  induction front generalizing host with
  | nil =>
    rw [List.nil_append]
    constructor
    · intro h
      exact ⟨[], host, covers_nil.mpr rfl, h, rfl⟩
    · rintro ⟨first, rest, hfirst, hrest, rfl⟩
      rwa [covers_nil.mp hfirst, List.nil_append]
  | cons l front ih =>
    rw [List.cons_append, covers_cons]
    constructor
    · rintro ⟨block, more, hblock, hmore, rfl⟩
      obtain ⟨first, rest, hfirst, hrest, rfl⟩ := ih.mp hmore
      refine ⟨block ++ first, rest, ?_, hrest, List.append_assoc _ _ _⟩
      exact covers_cons.mpr ⟨block, first, hblock, hfirst, rfl⟩
    · rintro ⟨whole, rest, hwhole, hrest, rfl⟩
      obtain ⟨block, first, hblock, hfirst, rfl⟩ := covers_cons.mp hwhole
      refine ⟨block, first ++ rest, hblock, ?_, (List.append_assoc _ _ _).symm⟩
      exact ih.mpr ⟨first, rest, hfirst, hrest, rfl⟩

/-! ## From the right -/

/-- The blocks of a host are those of the reversed host, each of them reversed. -/
theorem Covers.reverse {pattern : List HostLabel} {host : List (List Char)}
    (h : Covers pattern host) : Covers pattern.reverse host.reverse := by
  obtain ⟨blocks, hstands, rfl⟩ := h
  refine ⟨(blocks.map List.reverse).reverse, ?_, List.reverse_flatten.symm⟩
  rw [List.forall₂_reverse_iff, List.forall₂_map_right_iff]
  exact hstands.imp fun _ _ => Stands.reverse

theorem covers_reverse {pattern : List HostLabel} {host : List (List Char)} :
    Covers pattern.reverse host.reverse ↔ Covers pattern host := by
  constructor
  · intro h
    have hback := h.reverse
    rwa [List.reverse_reverse, List.reverse_reverse] at hback
  · exact Covers.reverse

/-! ## Merging -/

/-- Two blocks in a row are one block. -/
theorem covers_many_many {pattern : List HostLabel} {host : List (List Char)} :
    Covers (.many :: .many :: pattern) host ↔ Covers (.many :: pattern) host := by
  constructor
  · intro h
    obtain ⟨block, more, -, hmore, rfl⟩ := covers_cons.mp h
    obtain ⟨block', rest, -, hrest, rfl⟩ := covers_cons.mp hmore
    exact covers_cons.mpr ⟨block ++ block', rest, trivial, hrest, List.append_assoc _ _ _⟩
  · intro h
    exact covers_cons.mpr ⟨[], host, trivial, h, rfl⟩

/-! ## The program -/

/-- What is tried is what any first items leave over. -/
theorem anyTail_iff {α : Type} {p : List α → Bool} {l : List α} :
    anyTail p l = true ↔ ∃ block rest, p rest = true ∧ block ++ rest = l := by
  induction l with
  | nil =>
    constructor
    · intro h
      exact ⟨[], [], h, rfl⟩
    · rintro ⟨block, rest, hp, hnil⟩
      obtain ⟨-, rfl⟩ := List.append_eq_nil_iff.mp hnil
      exact hp
  | cons x r ih =>
    rw [anyTail, Bool.or_eq_true, ih]
    constructor
    · rintro (h | ⟨block, rest, hp, rfl⟩)
      · exact ⟨[], x :: r, h, rfl⟩
      · exact ⟨x :: block, rest, hp, rfl⟩
    · rintro ⟨block, rest, hp, hcut⟩
      cases block with
      | nil =>
        left
        rwa [← hcut]
      | cons y block =>
        obtain ⟨-, rfl⟩ := List.cons.inj hcut
        right
        exact ⟨block, rest, hp, rfl⟩

/-- **The program finds a cut exactly if there is one.** -/
theorem matchLabels_iff_covers {pattern : List HostLabel} {host : List (List Char)} :
    matchLabels pattern host = true ↔ Covers pattern host := by
  induction pattern generalizing host with
  | nil => rw [matchLabels, List.isEmpty_iff, covers_nil]
  | cons l pattern ih =>
    rw [covers_cons]
    cases l with
    | many =>
      rw [matchLabels, anyTail_iff]
      simp only [ih, Stands, true_and]
    | one =>
      constructor
      · intro h
        cases host with
        | nil => cases h
        | cons first rest => exact ⟨[first], rest, rfl, ih.mp h, rfl⟩
      · rintro ⟨block, rest, hblock, hrest, rfl⟩
        obtain ⟨first, rfl⟩ := List.length_eq_one_iff.mp hblock
        exact ih.mpr hrest
    | exactly text =>
      constructor
      · intro h
        cases host with
        | nil => cases h
        | cons first rest =>
          obtain ⟨htext, hrest⟩ := Bool.and_eq_true_iff.mp h
          obtain rfl : text = first := of_decide_eq_true htext
          exact ⟨[text], rest, rfl, ih.mp hrest, rfl⟩
      · rintro ⟨block, rest, rfl, hrest, rfl⟩
        exact Bool.and_eq_true_iff.mpr ⟨decide_eq_true rfl, ih.mpr hrest⟩

/-! ## Headline -/

/-- **Headline.**  Labels match a pattern exactly if they can be cut into consecutive blocks, one for
each label of the pattern and such that it stands for it.  So two `**` in a row may be merged, and
the pattern and the labels may be reversed together. -/
theorem matchLabels_cuts (pattern : List HostLabel) (host : List (List Char)) :
    (matchLabels pattern host = true ↔
      ∃ blocks : List (List (List Char)),
        List.Forall₂ Stands pattern blocks ∧ blocks.flatten = host) ∧
    (∀ front back : List HostLabel,
      matchLabels (front ++ .many :: .many :: back) host =
        matchLabels (front ++ .many :: back) host) ∧
    matchLabels pattern.reverse host.reverse = matchLabels pattern host := by
  refine ⟨matchLabels_iff_covers, fun front back => ?_, ?_⟩
  · rw [Bool.eq_iff_iff, matchLabels_iff_covers, matchLabels_iff_covers, covers_append,
      covers_append]
    simp only [covers_many_many]
  · rw [Bool.eq_iff_iff, matchLabels_iff_covers, matchLabels_iff_covers, covers_reverse]

end HostGlob

end Turnstile

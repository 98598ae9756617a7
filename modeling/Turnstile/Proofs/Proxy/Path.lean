import Mathlib.Data.List.Basic
import Turnstile.Proxy.Path
/-!
  What is left of a path when segments are stripped.

  1. **Segments of what is joined** (`segments_joinSegments`) — names that are segments come back
     from the path that joins them, so a stripped path has the segments that were not stripped, and
     no others (`segments_stripSegments`).

  2. **A front of one's own** (`stripSegments_append`) — a path that begins with a front and goes on
     after a slash, or ends with it, loses exactly the front when as many segments are stripped as
     the front has.  Neither slashes in a row nor names that occur again shift the count.

  3. **Normal paths** (`IsNormal`) — a slash in front, and no two in a row.  These are the paths
     that segments are joined to (`isNormal_joinSegments`, `IsNormal.exists_eq_join`), so stripping
     nothing leaves them alone, and no others (`stripSegments_zero_iff`).

  4. **Headline** (`stripSegments_action`) — stripping in steps is stripping the sum.  The slash at
     the end is what the steps could disagree on: a path of which nothing is left ends with one, but
     then there is nothing left to strip either.
-/

namespace Turnstile.Proxy

open Text

/-- **Segment**: what may stand between two slashes, and is not nothing. -/
def IsSegment (s : List Char) : Prop := s ≠ [] ∧ '/' ∉ s

theorem isSegment_of_mem {path s : List Char} (h : s ∈ segments path) : IsSegment s := by
  obtain ⟨hpiece, hkept⟩ := List.mem_filter.mp h
  refine ⟨fun hnil => ?_, not_mem_of_mem_split hpiece⟩
  rw [hnil] at hkept
  cases hkept

/-- A slash in front adds no segment. -/
theorem segments_slash (path : List Char) : segments ('/' :: path) = segments path :=
  segments_append [] path

/-- Segments come back from the path that joins them. -/
theorem segments_joinSegments {names : List (List Char)} (h : ∀ s ∈ names, IsSegment s)
    (slash : Bool) : segments (joinSegments names slash) = names := by
  cases names with
  | nil => rfl
  | cons s rest =>
    have hslash : ∀ p ∈ s :: rest ++ (if slash then [[]] else []), '/' ∉ p := by
      intro p hp
      rcases List.mem_append.mp hp with hp | hp
      · exact (h p hp).2
      · cases slash with
        | false => exact absurd hp List.not_mem_nil
        | true => exact List.mem_singleton.mp hp ▸ List.not_mem_nil
    have hkept : (s :: rest).filter (!·.isEmpty) = s :: rest := by
      refine List.filter_eq_self.mpr fun p hp => ?_
      simpa using (h p hp).1
    have hlast : (if slash then [[]] else [] : List (List Char)).filter (!·.isEmpty) = [] := by
      cases slash <;> rfl
    rw [joinSegments_cons, segments_slash]
    unfold segments
    rw [split_intercalate (by simp) hslash, List.filter_append, hkept, hlast, List.append_nil]

/-- A stripped path has the segments that were not stripped. -/
theorem segments_stripSegments (n : Nat) (path : List Char) :
    segments (stripSegments n path) = (segments path).drop n :=
  segments_joinSegments (fun _ hs => isSegment_of_mem (List.mem_of_mem_drop hs)) _

/-- **A front of one's own**: stripping as many segments as a front has takes the front away, and
nothing of what follows it. -/
theorem stripSegments_append {own rest : List Char} (hrest : ∀ c ∈ rest.head?, c = '/') :
    stripSegments (segments own).length (own ++ rest) = stripSegments 0 rest := by
  unfold stripSegments
  cases rest with
  | nil =>
    rw [List.append_nil, List.drop_length]
    rfl
  | cons c below =>
    obtain rfl : c = '/' := hrest c rfl
    rw [segments_append, List.drop_left, segments_slash, List.drop_zero, List.getLast?_append_cons]

/-! ## Normal paths -/

/-- **Normal**: a path begins with a slash, and has no two slashes in a row. -/
def IsNormal (path : List Char) : Prop := path.head? = some '/' ∧ ¬ ['/', '/'] <:+: path

/-- Text without slashes has no part in two slashes in a row. -/
theorem doubled_append_iff {s : List Char} (hs : '/' ∉ s) (t : List Char) :
    ['/', '/'] <:+: s ++ t ↔ ['/', '/'] <:+: t := by
  induction s with
  | nil => rfl
  | cons c r ih =>
    rw [List.mem_cons, not_or] at hs
    rw [List.cons_append, List.infix_cons_iff, ih hs.2, or_iff_right_iff_imp]
    intro hprefix
    exact absurd (List.cons_prefix_cons.mp hprefix).1 hs.1

/-- Nor has a slash in front of a segment. -/
theorem doubled_segment_iff {s : List Char} (hs : IsSegment s) (t : List Char) :
    ['/', '/'] <:+: '/' :: (s ++ t) ↔ ['/', '/'] <:+: t := by
  obtain ⟨hne, hslash⟩ := hs
  rw [List.infix_cons_iff, doubled_append_iff hslash, or_iff_right_iff_imp]
  intro hprefix
  obtain ⟨c, r, rfl⟩ := List.exists_cons_of_ne_nil hne
  rw [List.cons_append, List.cons_prefix_cons, List.cons_prefix_cons] at hprefix
  exact absurd (List.mem_cons.mpr (.inl hprefix.2.1)) hslash

/-- What segments are joined to is normal. -/
theorem isNormal_joinSegments {names : List (List Char)} (h : ∀ s ∈ names, IsSegment s)
    (slash : Bool) : IsNormal (joinSegments names slash) := by
  have hnames : ¬ ['/', '/'] <:+: names.flatMap ('/' :: ·) ++ if slash then ['/'] else [] := by
    induction names with
    | nil => cases slash <;> decide
    | cons s rest ih =>
      rw [List.flatMap_cons, List.append_assoc, List.cons_append,
        doubled_segment_iff (h s List.mem_cons_self)]
      exact ih fun p hp => h p (List.mem_cons_of_mem _ hp)
  cases names with
  | nil =>
    have hone : ¬ ['/', '/'] <:+: ['/'] := by decide
    exact ⟨rfl, hone⟩
  | cons s rest =>
    refine ⟨?_, hnames⟩
    rw [joinSegments_cons]
    rfl

/-- Pieces with slashes before them, none of which are doubled: only the last piece may be empty. -/
theorem exists_flatMap_eq_join {pieces : List (List Char)} (hne : pieces ≠ [])
    (hslash : ∀ p ∈ pieces, '/' ∉ p) (hnormal : ¬ ['/', '/'] <:+: pieces.flatMap ('/' :: ·)) :
    ∃ names slash, (∀ s ∈ names, IsSegment s) ∧
      pieces.flatMap ('/' :: ·) = joinSegments names slash := by
  induction pieces with
  | nil => exact absurd rfl hne
  | cons p rest ih =>
    have hp : '/' ∉ p := hslash p List.mem_cons_self
    cases rest with
    | nil =>
      by_cases hempty : p = []
      · exact ⟨[], false, by simp, by rw [hempty]; rfl⟩
      · exact ⟨[p], false, by simpa using ⟨hempty, hp⟩, by simp [joinSegments]⟩
    | cons q more =>
      rw [List.flatMap_cons, List.cons_append] at hnormal ⊢
      have hsegment : IsSegment p := by
        refine ⟨fun hempty => hnormal ?_, hp⟩
        rw [hempty, List.flatMap_cons]
        exact List.IsPrefix.isInfix ⟨q ++ more.flatMap ('/' :: ·), rfl⟩
      rw [doubled_segment_iff hsegment] at hnormal
      obtain ⟨names, slash, hnames, hjoin⟩ :=
        ih (by simp) (fun s hs => hslash s (List.mem_cons_of_mem _ hs)) hnormal
      rw [hjoin]
      cases names with
      | nil => exact ⟨[p], true, by simpa using hsegment, by simp [joinSegments]⟩
      | cons s names =>
        exact ⟨p :: s :: names, slash, List.forall_mem_cons.mpr ⟨hsegment, hnames⟩,
          by simp [joinSegments]⟩

/-- Every normal path is joined of segments. -/
theorem IsNormal.exists_eq_join {path : List Char} (h : IsNormal path) :
    ∃ names slash, (∀ s ∈ names, IsSegment s) ∧ path = joinSegments names slash := by
  obtain ⟨hhead, hnormal⟩ := h
  obtain ⟨rest, rfl⟩ := List.head?_eq_some_iff.mp hhead
  obtain ⟨p, more, hsplit⟩ := List.exists_cons_of_ne_nil (split_ne_nil '/' rest)
  have hpath : '/' :: rest = (split '/' rest).flatMap ('/' :: ·) := by
    rw [hsplit, flatMap_slash, ← hsplit, intercalate_split]
  rw [hpath] at hnormal ⊢
  exact exists_flatMap_eq_join (split_ne_nil '/' rest) (fun _ => not_mem_of_mem_split) hnormal

/-- A joined path ends with a slash if there is nothing to join, or if that is asked for. -/
theorem getLast?_joinSegments {names : List (List Char)} (h : ∀ s ∈ names, IsSegment s)
    (slash : Bool) :
    (joinSegments names slash).getLast? = some '/' ↔ names = [] ∨ slash = true := by
  rcases List.eq_nil_or_concat' names with rfl | ⟨front, s, rfl⟩
  · exact iff_of_true rfl (.inl rfl)
  · obtain ⟨hne, hs⟩ := h s (by simp)
    obtain ⟨body, c, rfl⟩ := (List.eq_nil_or_concat' s).resolve_left hne
    have hc : c ≠ '/' := fun heq => hs (by simp [heq])
    have hjoin : joinSegments (front ++ [body ++ [c]]) slash =
        front.flatMap ('/' :: ·) ++ '/' :: body ++ [c] ++ if slash then ['/'] else [] := by
      simp [joinSegments]
    rw [hjoin]
    cases slash with
    | true =>
      rw [if_pos rfl, List.getLast?_concat]
      exact iff_of_true rfl (.inr rfl)
    | false =>
      rw [if_neg Bool.false_ne_true, List.append_nil, List.getLast?_concat]
      simpa using hc

/-! ## Stripping in steps -/

/-- Stripped segments leave segments. -/
theorem isSegment_of_mem_drop {n : Nat} {path s : List Char} (h : s ∈ (segments path).drop n) :
    IsSegment s :=
  isSegment_of_mem (List.mem_of_mem_drop h)

theorem isNormal_stripSegments (n : Nat) (path : List Char) : IsNormal (stripSegments n path) :=
  isNormal_joinSegments (fun _ => isSegment_of_mem_drop) _

/-- Nothing is left exactly if there are no more segments than are stripped. -/
theorem stripSegments_eq_slash_iff (n : Nat) (path : List Char) :
    stripSegments n path = ['/'] ↔ (segments path).length ≤ n := by
  have hleft := segments_stripSegments n path
  rw [← List.drop_eq_nil_iff]
  constructor
  · intro h
    rw [← hleft, h]
    rfl
  · intro h
    unfold stripSegments
    rw [h]
    rfl

theorem getLast?_stripSegments (n : Nat) (path : List Char) :
    (stripSegments n path).getLast? = some '/' ↔
      stripSegments n path = ['/'] ∨ path.getLast? = some '/' := by
  rw [stripSegments_eq_slash_iff, ← List.drop_eq_nil_iff]
  exact (getLast?_joinSegments (fun _ => isSegment_of_mem_drop) _).trans
    (or_congr_right decide_eq_true_iff)

/-- **In steps**: stripping again is stripping more. -/
theorem stripSegments_stripSegments (a b : Nat) (path : List Char) :
    stripSegments b (stripSegments a path) = stripSegments (a + b) path := by
  by_cases hall : (segments path).length ≤ a
  · have hmore : (segments path).length ≤ a + b := Nat.le_add_right_of_le hall
    rw [(stripSegments_eq_slash_iff a path).mpr hall,
      (stripSegments_eq_slash_iff (a + b) path).mpr hmore, stripSegments_eq_slash_iff]
    exact Nat.zero_le b
  · have hsegments : (segments (stripSegments a path)).drop b = (segments path).drop (a + b) := by
      rw [segments_stripSegments, List.drop_drop]
    have hslash : (stripSegments a path).getLast? = some '/' ↔ path.getLast? = some '/' := by
      rw [getLast?_stripSegments, stripSegments_eq_slash_iff, or_iff_right hall]
    calc stripSegments b (stripSegments a path)
        = joinSegments ((segments (stripSegments a path)).drop b)
            ((stripSegments a path).getLast? = some '/') := rfl
      _ = joinSegments ((segments path).drop (a + b)) (path.getLast? = some '/') := by
        rw [hsegments, decide_eq_decide.mpr hslash]

/-- Stripping nothing leaves the normal paths alone, and no others. -/
theorem stripSegments_zero_iff (path : List Char) :
    stripSegments 0 path = path ↔ IsNormal path := by
  constructor
  · intro h
    rw [← h]
    exact isNormal_stripSegments 0 path
  · intro h
    obtain ⟨names, slash, hnames, rfl⟩ := h.exists_eq_join
    have hslash := getLast?_joinSegments hnames slash
    unfold stripSegments
    rw [segments_joinSegments hnames, List.drop_zero]
    cases names with
    | nil => rfl
    | cons s rest =>
      congr 1
      rw [Bool.eq_iff_iff, decide_eq_true_iff, hslash, or_iff_right (List.cons_ne_nil s rest)]

/-- **Headline.**  Stripping in steps is stripping the sum.  What is left is a normal path, whose
segments are those that were not stripped, in order; it ends with a slash exactly if it is one or
the path ended with one; and it is one exactly if all segments were stripped, so it stays one
however many more are.  Stripping nothing leaves the normal paths alone, and no others, so doing it
twice is doing it once. -/
theorem stripSegments_action (path : List Char) :
    (∀ a b, stripSegments b (stripSegments a path) = stripSegments (a + b) path) ∧
    (∀ n, IsNormal (stripSegments n path) ∧
      segments (stripSegments n path) = (segments path).drop n ∧
      ((stripSegments n path).getLast? = some '/' ↔
        stripSegments n path = ['/'] ∨ path.getLast? = some '/') ∧
      (stripSegments n path = ['/'] ↔ (segments path).length ≤ n)) ∧
    (stripSegments 0 path = path ↔ IsNormal path) ∧
    stripSegments 0 (stripSegments 0 path) = stripSegments 0 path := by
  refine ⟨fun a b => stripSegments_stripSegments a b path, fun n => ⟨isNormal_stripSegments n path,
    segments_stripSegments n path, getLast?_stripSegments n path,
    stripSegments_eq_slash_iff n path⟩, stripSegments_zero_iff path, ?_⟩
  exact stripSegments_stripSegments 0 0 path

end Turnstile.Proxy

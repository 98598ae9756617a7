import Turnstile.Text.Split
/-!
  The path that a destination gets to see.

  A route is a place in the gateway's own path space, so its first segments mean nothing to the
  destination and are stripped.  Empty segments are not counted and not kept; a slash at the end is.
-/

namespace Turnstile.Proxy

open Text

/-- The segments of a path that are not empty. -/
def segments (path : List Char) : List (List Char) := (split '/' path).filter (!·.isEmpty)

/-- A slash parts segments. -/
theorem segments_append (a b : List Char) :
    segments (a ++ '/' :: b) = segments a ++ segments b := by
  unfold segments
  rw [split_append_sep, List.filter_append]

/-- A slash before each segment, and one at the end if asked for; without segments, one slash. -/
def joinSegments (names : List (List Char)) (slash : Bool) : List Char :=
  if names.isEmpty then ['/'] else names.flatMap ('/' :: ·) ++ (if slash then ['/'] else [])

theorem flatMap_slash (s : List Char) (names : List (List Char)) :
    (s :: names).flatMap ('/' :: ·) = '/' :: ['/'].intercalate (s :: names) := by
  induction names generalizing s with
  | nil => simp [List.intercalate]
  | cons t rest ih =>
    rw [List.flatMap_cons, ih, List.intercalate_cons_cons]
    simp

/-- What is joined, after the first slash: the segments between slashes, and an empty one at the end
if a slash is asked for there. -/
theorem joinSegments_cons (s : List Char) (names : List (List Char)) (slash : Bool) :
    joinSegments (s :: names) slash =
      '/' :: ['/'].intercalate (s :: names ++ if slash then [[]] else []) := by
  rw [List.cons_append, ← flatMap_slash, ← List.cons_append, List.flatMap_append]
  cases slash <;> rfl

/-- After its first slash, what is passed on of a text is made of its segments, and maybe of an
empty one at the end. -/
theorem joinSegments_segments (t : List Char) (slash : Bool) :
    ∃ pieces, joinSegments (segments t) slash = '/' :: ['/'].intercalate pieces ∧
      pieces.head? = (segments t).head? ∧ ∀ p ∈ pieces, p = [] ∨ p ∈ split '/' t := by
  have hmem : ∀ p ∈ segments t, p ∈ split '/' t := fun p hp => (List.mem_filter.mp hp).1
  cases hsegments : segments t with
  | nil => exact ⟨[], rfl, rfl, by simp⟩
  | cons s names =>
    refine ⟨s :: names ++ if slash then [[]] else [], joinSegments_cons s names slash, rfl, ?_⟩
    intro p hp
    rcases List.mem_append.mp hp with hp | hp
    · exact .inr (hmem p (hsegments ▸ hp))
    · cases slash with
      | false => exact absurd hp List.not_mem_nil
      | true => exact .inl (List.mem_singleton.mp hp)

/-- A path without its first `n` segments. -/
def stripSegments (n : Nat) (path : List Char) : List Char :=
  joinSegments ((segments path).drop n) (path.getLast? = some '/')

example : stripSegments 1 "/api//users/7/".toList = "/users/7/".toList := by decide
example : stripSegments 2 "/api".toList = "/".toList := by decide
example : stripSegments 0 "a".toList = "/a".toList := by decide

end Turnstile.Proxy

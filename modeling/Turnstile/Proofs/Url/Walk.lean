import Mathlib.Logic.Function.Iterate
import Turnstile.Proofs.Url.Below
/-!
  Paths as walks.

  A path is walked segment by segment, from the root of the URL: a name goes one down, `..` goes one
  back, and `.` stays.

  1. **Steps** (`walk`, `resolve_cons`) — what the names are after one segment more.  Where a path
     ends with a dot segment, an empty name is put at its end.

  2. **Names** (`resolve_names`) — where no segment is a dot segment, the names are the segments as
     they are shown.

  3. **The crux** (`resolve_above`) — a path that is walked after some names comes to the names that
     it comes to from the root, put after what is left of those before.  It goes back over these
     once for each `..` that it meets at its own root (`rises`), and only so; the induction is on
     the path, with its own names so far as the state.
-/

namespace Turnstile.Url

open Text

/-! ## Steps -/

/-- A segment as the path of a URL shows it. -/
def shown (s : List Char) : List Char := Percent.encode Percent.pathSet (counted s)

/-- Whether a segment is a dot segment. -/
def isDotSegment (s : List Char) : Bool := isDot s || isDotDot s

/-- The names, in reverse, after one segment more. -/
def walk (done : List (List Char)) (s : List Char) : List (List Char) :=
  if isDotDot (counted s) then goBack done
  else if isDot (counted s) then done
  else shown s :: done

/-- There is no way back from a drive. -/
theorem goBack_cons (name : List Char) (more : List (List Char)) :
    goBack (name :: more) = if entersDrive name then name :: more else more := rfl

theorem walk_of_name {s : List Char} (h : isDotSegment (counted s) = false)
    (done : List (List Char)) : walk done s = shown s :: done := by
  obtain ⟨hdot, hdotDot⟩ := Bool.or_eq_false_iff.mp h
  unfold walk
  rw [hdot, hdotDot]
  rfl

/-- **One step**: the end of a path that is a dot segment leaves an empty name. -/
theorem resolve_cons (done : List (List Char)) (s : List Char) (rest : List (List Char)) :
    resolve false done (s :: rest) =
      if rest.isEmpty && isDotSegment (counted s) then ([] :: walk done s).reverse
      else resolve false (walk done s) rest := by
  unfold isDotSegment
  rw [resolve, Bool.or_comm (isDot _)]
  rfl

/-! ## Names -/

/-- Segments that are no dot segments are shown one after the other. -/
theorem resolve_names {names : List (List Char)}
    (h : ∀ s ∈ names, isDotSegment (counted s) = false) (done tail : List (List Char)) :
    resolve false done (names ++ tail) =
      resolve false ((names.map shown).reverse ++ done) tail := by
  induction names generalizing done with
  | nil => rfl
  | cons s rest ih =>
    have hs := h s List.mem_cons_self
    rw [List.cons_append, resolve_cons, hs, Bool.and_false, if_neg Bool.false_ne_true,
      walk_of_name hs, ih (fun t ht => h t (List.mem_cons_of_mem _ ht)), List.map_cons,
      List.reverse_cons, List.append_assoc]
    rfl

/-! ## Crux -/

/-- How often a path goes back at its own root, given its own names in reverse. -/
def rises (own : List (List Char)) : List (List Char) → Nat
  | [] => 0
  | s :: rest =>
    (if isDotDot (counted s) && own.isEmpty then 1 else 0) + rises (walk own s) rest

/-- A path without `..` goes back nowhere. -/
theorem rises_eq_zero {path : List (List Char)} (h : ∀ s ∈ path, isDotDot (counted s) = false)
    (own : List (List Char)) : rises own path = 0 := by
  induction path generalizing own with
  | nil => rfl
  | cons s rest ih =>
    rw [rises, h s List.mem_cons_self, Bool.false_and, if_neg Bool.false_ne_true,
      ih fun t ht => h t (List.mem_cons_of_mem _ ht)]

/-- One step after some names: it is one of the path's own, unless it goes back at its root. -/
theorem walk_above (own left : List (List Char)) (s : List Char) :
    walk (own ++ left) s = walk own s ++
      goBack^[if isDotDot (counted s) && own.isEmpty then 1 else 0] left := by
  unfold walk
  by_cases hdotDot : isDotDot (counted s) = true
  · rw [if_pos hdotDot, if_pos hdotDot, hdotDot, Bool.true_and]
    cases own with
    | nil => rfl
    | cons name more =>
      -- a drive among the path's own names stays, any other name goes
      rw [List.cons_append, goBack_cons, goBack_cons]
      split
      · rfl
      · rfl
  · rw [Bool.not_eq_true] at hdotDot
    rw [hdotDot, Bool.false_and, if_neg Bool.false_ne_true, if_neg Bool.false_ne_true]
    split
    · rfl
    · rfl

/-- **The crux**: what a path comes to after some names. -/
theorem resolve_above (own left path : List (List Char)) :
    resolve false (own ++ left) path =
      (goBack^[rises own path] left).reverse ++ resolve false own path := by
  induction path generalizing own left with
  | nil => simp [resolve, rises]
  | cons s rest ih =>
    have hiterate (n m : Nat) : goBack^[m + n] left = goBack^[n] (goBack^[m] left) := by
      rw [Nat.add_comm, Function.iterate_add_apply]
    rw [resolve_cons, resolve_cons, walk_above, rises, hiterate]
    split
    · rename_i hlast
      obtain ⟨hempty, -⟩ := Bool.and_eq_true_iff.mp hlast
      rw [List.isEmpty_iff.mp hempty]
      simp [rises]
    · exact ih _ _

end Turnstile.Url

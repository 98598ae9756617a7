import Turnstile.RateLimit.Limiter
/-!
  What a limiter remembers of a key, and what of it can be seen.

  1. **Distinct keys** (`Distinct`) — the arrival times are a list, in which a key stands at most
     once; every operation keeps it so.  It is what makes forgetting an entry the same as forgetting
     a key (`arrival?_prune`).

  2. **What can be seen** (`due`) — of a remembered arrival time only its part in the future
     matters.  `due` is the arrival time or the present, whichever is later, and a judgement depends
     on nothing else (`check_eq`).  A new key and one whose arrival time has passed are due alike.

  3. **How it changes** — time moves it (`due_later`), an admission sets it (`due_remember_self`),
     other keys leave it alone (`due_remember_other`), and so does forgetting (`due_prune`): an
     entry is forgotten only a whole step after its arrival time.
-/

namespace Turnstile.Limiter

/-! ## Distinct keys -/

/-- **Distinct**: no key is remembered twice. -/
def Distinct (l : Limiter) : Prop := (l.arrivals.map (·.1)).Nodup

theorem create_distinct (quota : Quota) (now : Nat) : (create quota now).Distinct := List.nodup_nil

theorem remember_distinct {l : Limiter} (hl : l.Distinct) (key : String) (arrival : Nat) :
    (l.remember key arrival).Distinct := by
  refine List.nodup_cons.mpr ⟨fun hmem => ?_, hl.sublist (List.filter_sublist.map _)⟩
  obtain ⟨e, he, hkey⟩ := List.mem_map.mp hmem
  have hne := (List.mem_filter.mp he).2
  rw [hkey, bne_self_eq_false] at hne
  exact Bool.noConfusion hne

theorem prune_distinct {l : Limiter} (hl : l.Distinct) (now : Nat) : (l.prune now).Distinct :=
  hl.sublist (List.filter_sublist.map _)

/-! ## Looking up an arrival time -/

/-- The value of a key in a list of entries. -/
def lookup (entries : List (String × Nat)) (key : String) : Option Nat :=
  (entries.find? fun e => e.1 == key).map (·.2)

theorem lookup_cons (e : String × Nat) (entries : List (String × Nat)) (key : String) :
    lookup (e :: entries) key = if e.1 = key then some e.2 else lookup entries key := by
  unfold lookup
  rw [List.find?_cons]
  by_cases h : e.1 = key
  · rw [if_pos h, beq_iff_eq.mpr h]
    rfl
  · rw [if_neg h, beq_false_of_ne h]

theorem lookup_of_not_mem {entries : List (String × Nat)} {key : String}
    (h : key ∉ entries.map (·.1)) : lookup entries key = none := by
  induction entries with
  | nil => rfl
  | cons e rest ih =>
    rw [List.map_cons, List.mem_cons, not_or] at h
    rw [lookup_cons, if_neg (Ne.symm h.1), ih h.2]

/-- Dropping one key leaves the values of the others. -/
theorem lookup_filter_other (entries : List (String × Nat)) {key other : String}
    (hne : other ≠ key) :
    lookup (entries.filter fun e => e.1 != key) other = lookup entries other := by
  induction entries with
  | nil => rfl
  | cons e rest ih =>
    by_cases h : e.1 = key
    · rw [List.filter_cons_of_neg (by simpa using h), ih, lookup_cons, if_neg (h ▸ hne.symm)]
    · rw [List.filter_cons_of_pos (by simpa using h), lookup_cons, lookup_cons, ih]

/-- The keys are distinct, so dropping an entry uncovers no other entry of its key. -/
theorem lookup_filter {entries : List (String × Nat)} (hnodup : (entries.map (·.1)).Nodup)
    (keep : Nat → Bool) (key : String) :
    lookup (entries.filter fun e => keep e.2) key = (lookup entries key).filter keep := by
  induction entries with
  | nil => rfl
  | cons e rest ih =>
    rw [List.map_cons, List.nodup_cons] at hnodup
    rw [lookup_cons]
    by_cases hkey : e.1 = key
    · rw [if_pos hkey]
      by_cases hkept : keep e.2 = true
      · rw [List.filter_cons, if_pos hkept, lookup_cons, if_pos hkey, Option.filter_some,
          if_pos hkept]
      · have hgone : key ∉ (rest.filter fun e => keep e.2).map (·.1) := fun hmem =>
          hnodup.1 (hkey ▸ (List.filter_sublist.map _).subset hmem)
        rw [List.filter_cons, if_neg hkept, lookup_of_not_mem hgone, Option.filter_some,
          if_neg hkept]
    · rw [if_neg hkey, ← ih hnodup.2, List.filter_cons]
      split
      · rw [lookup_cons, if_neg hkey]
      · rfl

theorem arrival?_remember_self (l : Limiter) (key : String) (arrival : Nat) :
    (l.remember key arrival).arrival? key = some arrival :=
  (lookup_cons _ _ _).trans (if_pos rfl)

theorem arrival?_remember_other (l : Limiter) {key other : String} (hne : other ≠ key)
    (arrival : Nat) : (l.remember key arrival).arrival? other = l.arrival? other :=
  calc (l.remember key arrival).arrival? other
      = lookup (l.arrivals.filter fun e => e.1 != key) other :=
        (lookup_cons _ _ _).trans (if_neg hne.symm)
    _ = l.arrival? other := lookup_filter_other _ hne

theorem arrival?_prune {l : Limiter} (hl : l.Distinct) (now : Nat) (key : String) :
    (l.prune now).arrival? key =
      (l.arrival? key).filter fun arrival => now - l.made - l.quota.step < arrival :=
  lookup_filter hl (fun arrival => now - l.made - l.quota.step < arrival) key

/-! ## What can be seen of it -/

/-- The arrival time of a key, or the present if that is later. -/
def due (l : Limiter) (key : String) (now : Nat) : Nat :=
  max ((l.arrival? key).getD 0) (now - l.made)

theorem max_expected (l : Limiter) (key : String) (at_ : Nat) :
    max (l.expected key at_) at_ = max ((l.arrival? key).getD 0) at_ := by
  unfold expected
  split
  · rename_i h
    rw [h, Nat.max_self]
    exact (Nat.zero_max _).symm
  · rename_i h
    rw [h, Nat.max_self]
    exact (Nat.zero_max _).symm
  · rename_i h
    rw [h]
    rfl

/-- **A judgement depends on what is due only**: a key is refused if it is due too far in the
future, and an arrival time in the past refuses nothing. -/
theorem check_eq (l : Limiter) (key : String) (now : Nat) :
    l.check key now =
      if now - l.made < l.due key now - l.quota.tolerance then
        (.refused (l.due key now - l.quota.tolerance - (now - l.made)), l)
      else (.admitted, l.remember key (l.due key now + l.quota.step)) := by
  have hmax := l.max_expected key (now - l.made)
  unfold check due
  dsimp only
  rw [← hmax]
  by_cases hpast : l.expected key (now - l.made) ≤ now - l.made
  · rw [Nat.max_eq_right hpast, if_neg (by omega), if_neg (by omega)]
  · rw [Nat.max_eq_left (by omega)]

/-! ## How it changes -/

/-- What is due later is what is due now, or the later present. -/
theorem due_later (l : Limiter) (key : String) {now later : Nat} (hle : now ≤ later) :
    l.due key later = max (l.due key now) (later - l.made) := by
  unfold due
  omega

theorem due_remember_self (l : Limiter) (key : String) (arrival now : Nat) :
    (l.remember key arrival).due key now = max arrival (now - l.made) := by
  unfold due
  rw [arrival?_remember_self]
  rfl

theorem due_remember_other (l : Limiter) {key other : String} (hne : other ≠ key)
    (arrival now : Nat) : (l.remember key arrival).due other now = l.due other now := by
  unfold due
  rw [arrival?_remember_other l hne]
  rfl

/-- **Forgetting cannot be seen**: what is forgotten was due before the present. -/
theorem due_prune {l : Limiter} (hl : l.Distinct) (key : String) (now : Nat) :
    (l.prune now).due key now = l.due key now := by
  unfold due
  rw [arrival?_prune hl]
  show max _ (now - l.made) = _
  cases l.arrival? key with
  | none => rfl
  | some arrival =>
    rw [Option.filter_some]
    split
    · rfl
    · rename_i hgone
      have hpast : arrival ≤ now - l.made - l.quota.step := by simpa using hgone
      show max 0 (now - l.made) = max arrival (now - l.made)
      omega

end Turnstile.Limiter

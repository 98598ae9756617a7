import Turnstile.Text.Blank
import Turnstile.Text.Order
import Turnstile.Text.Utf8
/-!
  Header fields.

  A header map is a list of fields, in the order in which they were added; names are in lower case,
  and a name may occur several times.  Values are bytes.  A value has a text only if each of its
  bytes is a tab or a printable ASCII character; a value that is *set* may hold any byte that is no
  control.
-/

namespace Turnstile

/-- The bytes of a header field. -/
structure HeaderValue where
  bytes : Bytes
  deriving DecidableEq, Repr

namespace HeaderValue

/-- A tab or a printable ASCII character. -/
def isVisible (b : UInt8) : Bool := b = 0x09 ∨ (0x20 ≤ b ∧ b ≤ 0x7E)

/-- What may stand in a value: a tab, or any byte that is no control character. -/
def isAllowed (b : UInt8) : Bool := b = 0x09 ∨ (0x20 ≤ b ∧ b ≠ 0x7F)

/-- The text of a value, if every byte of it is visible. -/
def text? (v : HeaderValue) : Option (List Char) :=
  if v.bytes.all isVisible then some (Text.ofOctets v.bytes) else none

theorem text?_eq_some_iff {v : HeaderValue} {t : List Char} :
    v.text? = some t ↔ v.bytes.all isVisible = true ∧ Text.ofOctets v.bytes = t := by
  unfold text?
  split
  · rename_i hvisible
    rw [Option.some.injEq, and_iff_right hvisible]
  · rename_i hhidden
    exact ⟨fun h => (nomatch h), fun h => absurd h.1 hhidden⟩

/-- The value with the UTF-8 bytes of a text. -/
def ofText (t : List Char) : HeaderValue := ⟨Text.encode t⟩

/-- The value with the UTF-8 bytes of a string. -/
def ofString (s : String) : HeaderValue := ofText s.toList

/-- The value with the UTF-8 bytes of a string, if they may stand in a header. -/
def ofString? (s : String) : Option HeaderValue :=
  if (Text.bytes s).all isAllowed then some (ofString s) else none

end HeaderValue

/-- Header fields in the order in which they were added. -/
abbrev Headers := List (String × HeaderValue)

namespace Headers

/-- The first value of a name. -/
def get? (h : Headers) (name : String) : Option HeaderValue :=
  (h.find? fun f => f.1 == name).map (·.2)

/-- The text of the first value of a name. -/
def text? (h : Headers) (name : String) : Option (List Char) :=
  (Headers.get? h name).bind HeaderValue.text?

/-- All values of a name, in order. -/
def getAll (h : Headers) (name : String) : List HeaderValue :=
  h.filterMap fun f => if f.1 == name then some f.2 else none

/-- The fields of other names. -/
def erase (h : Headers) (name : String) : Headers := h.filter fun f => f.1 != name

/-- One more field, after the others. -/
def append (h : Headers) (name : String) (v : HeaderValue) : Headers := h ++ [(name, v)]

/-- The fields with `v` as the only value of `name`. -/
def insert (h : Headers) (name : String) (v : HeaderValue) : Headers :=
  Headers.append (Headers.erase h name) name v

/-- The fields in the order of their names; the values of one name keep their order. -/
def sorted (h : Headers) : Headers := Text.sortBy (·.1) h

theorem getAll_cons (f : String × HeaderValue) (h : Headers) (name : String) :
    Headers.getAll (f :: h) name =
      if f.1 = name then f.2 :: Headers.getAll h name else Headers.getAll h name := by
  by_cases hf : f.1 = name <;> simp [getAll, hf]

/-- The first value of a name is the first of all its values. -/
theorem get?_eq_head?_getAll (h : Headers) (name : String) :
    Headers.get? h name = (Headers.getAll h name).head? := by
  induction h with
  | nil => rfl
  | cons f rest ih =>
    rw [getAll_cons]
    by_cases hf : f.1 = name
    · rw [if_pos hf]
      simp [get?, hf]
    · rw [if_neg hf, ← ih]
      simp [get?, hf]

/-- Keeping fields by their names keeps all values of a name or none. -/
theorem getAll_filter (p : String → Bool) (h : Headers) (name : String) :
    Headers.getAll (h.filter fun f => p f.1) name =
      if p name then Headers.getAll h name else [] := by
  induction h with
  | nil => cases p name <;> rfl
  | cons f rest ih =>
    rw [List.filter_cons]
    by_cases hf : f.1 = name
    · rw [hf]
      split
      · rw [getAll_cons, getAll_cons, if_pos hf, if_pos hf, ih, if_pos ‹_›]
      · rw [ih, if_neg ‹_›]
    · split
      · rw [getAll_cons, getAll_cons, if_neg hf, if_neg hf, ih]
      · rw [ih, getAll_cons, if_neg hf]

theorem getAll_concat (h h' : Headers) (name : String) :
    Headers.getAll (h ++ h') name = Headers.getAll h name ++ Headers.getAll h' name :=
  List.filterMap_append

theorem getAll_append_self (h : Headers) (name : String) (v : HeaderValue) :
    Headers.getAll (Headers.append h name v) name = Headers.getAll h name ++ [v] := by
  simp [getAll, append]

theorem getAll_erase_self (h : Headers) (name : String) :
    Headers.getAll (Headers.erase h name) name = [] := by
  simp [getAll, erase, List.filterMap_eq_nil_iff]

theorem getAll_append_other {name other : String} (hne : other ≠ name) (h : Headers)
    (v : HeaderValue) : Headers.getAll (Headers.append h other v) name = Headers.getAll h name := by
  simp [getAll, append, hne]

theorem getAll_erase_other {name other : String} (hne : other ≠ name) (h : Headers) :
    Headers.getAll (Headers.erase h other) name = Headers.getAll h name := by
  have hkept : (name != other) = true := by simpa using hne.symm
  unfold erase
  rw [getAll_filter (· != other), hkept, if_pos rfl]

/-- `insert` leaves other names alone. -/
theorem getAll_insert_other {name other : String} (hne : other ≠ name) (h : Headers)
    (v : HeaderValue) : Headers.getAll (Headers.insert h other v) name = Headers.getAll h name := by
  rw [insert, getAll_append_other hne, getAll_erase_other hne]

/-- After `insert`, the name has the new value and no other. -/
theorem getAll_insert_self (h : Headers) (name : String) (v : HeaderValue) :
    Headers.getAll (Headers.insert h name v) name = [v] := by
  simp [insert, getAll_append_self, getAll_erase_self]

theorem get?_insert_other {name other : String} (hne : other ≠ name) (h : Headers)
    (v : HeaderValue) : Headers.get? (Headers.insert h other v) name = Headers.get? h name := by
  rw [get?_eq_head?_getAll, getAll_insert_other hne, ← get?_eq_head?_getAll]

theorem get?_insert_self (h : Headers) (name : String) (v : HeaderValue) :
    Headers.get? (Headers.insert h name v) name = some v := by
  rw [get?_eq_head?_getAll, getAll_insert_self]
  rfl

theorem text?_insert_other {name other : String} (hne : other ≠ name) (h : Headers)
    (v : HeaderValue) : Headers.text? (Headers.insert h other v) name = Headers.text? h name := by
  rw [text?, get?_insert_other hne]
  rfl

/-- The later of two values for one name stays. -/
theorem insert_insert (h : Headers) (name : String) (v w : HeaderValue) :
    Headers.insert (Headers.insert h name v) name w = Headers.insert h name w := by
  simp [insert, append, erase, List.filter_filter]

end Headers

end Turnstile

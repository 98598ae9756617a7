import Turnstile.Text.Blank
import Turnstile.Text.Split
/-!
  Patterns for host names.

  A pattern is a list of labels, of which `*` stands for one label and `**` for any number of them,
  none included.  A host is compared label by label, without its port, without dots at its end and
  without regard to case.
-/

namespace Turnstile

/-- One label of a host pattern. -/
inductive HostLabel where
  /-- Any number of labels. -/
  | many
  /-- Any one label. -/
  | one
  | exactly (text : List Char)
  deriving DecidableEq, Repr

/-- A pattern for host names. -/
structure HostGlob where
  labels : List HostLabel
  deriving DecidableEq, Repr

namespace HostGlob

open Text

/-- The labels of a name, in lower case and without dots at its end. -/
def labelsOf (t : List Char) : List (List Char) := split '.' (lower (dropEndWhile (· = '.') t))

/-- What a label of a pattern stands for. -/
def label (t : List Char) : HostLabel :=
  if t = ['*', '*'] then .many else if t = ['*'] then .one else .exactly t

/-- The pattern that a text denotes. -/
def parse (s : String) : HostGlob := ⟨(labelsOf (trim s.toList)).map label⟩

/-- Whether `p` holds of a list or of what is left of it after some first items. -/
def anyTail {α : Type} (p : List α → Bool) : List α → Bool
  | [] => p []
  | x :: r => p (x :: r) || anyTail p r

/-- Whether labels match a pattern. -/
def matchLabels : List HostLabel → List (List Char) → Bool
  | [], host => host.isEmpty
  | .many :: pattern, host => anyTail (matchLabels pattern) host
  | .one :: pattern, host =>
    match host with
    | [] => false
    | _ :: rest => matchLabels pattern rest
  | .exactly text :: pattern, host =>
    match host with
    | [] => false
    | first :: rest => text = first && matchLabels pattern rest

/-- A host without its port.  In brackets, only what they hold counts. -/
def withoutPort (t : List Char) : List Char :=
  match t with
  | '[' :: r => before ']' r
  | _ =>
    match cutLast ':' t with
    | some (name, port) => if port.all Char.isDigit then name else t
    | none => t

/-- Whether a host matches a pattern. -/
def accepts (g : HostGlob) (host : List Char) : Bool :=
  let name := dropEndWhile (· = '.') (withoutPort (trim host))
  !name.isEmpty && matchLabels g.labels (split '.' (lower name))

example : (parse "**.abc.org").accepts "A.b.ABC.org.:80".toList = true := by decide
example : (parse "**.abc.org").accepts "xabc.org".toList = false := by decide
example : (parse "*.abc.org").accepts "abc.org".toList = false := by decide

end HostGlob

end Turnstile

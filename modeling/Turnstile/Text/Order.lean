/-!
  The order in which names are listed.

  Texts are compared character by character, by code point, and a text comes before its extensions.
  `Text.sortBy` sorts by such a text and keeps the order of items whose texts are equal.
-/

namespace Turnstile.Text

/-- Whether `s` comes before `t`, or is equal to it. -/
def listedBefore : List Char → List Char → Bool
  | [], _ => true
  | _ :: _, [] => false
  | a :: s, b :: t =>
    if a.toNat < b.toNat then true
    else if b.toNat < a.toNat then false
    else listedBefore s t

/-- Puts an item in front of the first one that does not come before it. -/
def place {α : Type} (key : α → String) (x : α) : List α → List α
  | [] => [x]
  | y :: r =>
    if listedBefore (key x).toList (key y).toList then x :: y :: r else y :: place key x r

/-- Items in the order of their texts. -/
def sortBy {α : Type} (key : α → String) (items : List α) : List α := items.foldr (place key) []

example : sortBy id ["b", "aé", "a", ""] = ["", "a", "aé", "b"] := by decide
example : sortBy Prod.fst [("b", 1), ("a", 2), ("b", 3)] = [("a", 2), ("b", 1), ("b", 3)] := by
  decide

end Turnstile.Text

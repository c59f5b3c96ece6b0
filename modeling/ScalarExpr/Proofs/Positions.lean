import Mathlib.Data.List.Basic
import Mathlib.Data.Nat.PSub
/-!
# Positions in lists

A cursor stands at a position in a list; what it has not come to yet is the rest of the list
from there on. A part of the list is sliced between two positions, if these are in order and
the second one is not behind the end.

## Main definitions

- `slice?` — the part of a list between two positions

## Main statements

- `drop_eq_cons_of_getElem?`: what stands at a position heads the rest
- `isSome_slice?_iff`: when there is a slice
- `slice?_of_drop_eq_append`: the part that is taken off the rest is a slice
-/

namespace ScalarExpr

variable {α β : Type} {l : List α} {pos start stop : Nat}

theorem lt_length_of_getElem? {a : α} (h : l[pos]? = some a) : pos < l.length :=
  (List.getElem?_eq_some_iff.1 h).1

theorem drop_eq_cons_of_getElem? {a : α} (h : l[pos]? = some a) :
    l.drop pos = a :: l.drop (pos + 1) := by
  obtain ⟨hlt, rfl⟩ := List.getElem?_eq_some_iff.1 h
  exact List.drop_eq_getElem_cons hlt

theorem drop_eq_nil_of_getElem? (h : l[pos]? = none) : l.drop pos = [] :=
  List.drop_eq_nil_of_le (List.getElem?_eq_none_iff.1 h)

/-- The part of a list from `start` up to `stop`, if these are the ends of a part. -/
def slice? (l : List α) (start stop : Nat) : Option (List α) :=
  if start ≤ stop ∧ stop ≤ l.length then some ((l.take stop).drop start) else none

theorem isSome_slice?_iff : (slice? l start stop).isSome ↔ start ≤ stop ∧ stop ≤ l.length := by
  unfold slice?
  split <;> simp_all

/-- What is taken off the rest at `start`, so that the rest at `stop` is left. -/
theorem slice?_of_drop_eq_append {part : List α} (hstop : stop ≤ l.length)
    (h : l.drop start = part ++ l.drop stop) (hle : start ≤ stop) :
    slice? l start stop = some part := by
  have hlength := congrArg List.length h
  rw [List.length_append, List.length_drop, List.length_drop] at hlength
  have hpart : stop - start = part.length := by omega
  rw [slice?, if_pos ⟨hle, hstop⟩, List.drop_take, h, hpart, List.take_left]

theorem slice?_length (hstart : start ≤ l.length) : slice? l start l.length = some (l.drop start) :=
  slice?_of_drop_eq_append (Nat.le_refl _) (by rw [List.drop_length, List.append_nil]) hstart

/-- The first value of a function that is defined by a condition is its value at the first
    element that satisfies the condition. -/
theorem findSome?_eq_map_find? {f : α → Option β} {p : α → Bool} {g : α → β}
    (h : ∀ a, f a = if p a then some (g a) else none) (l : List α) :
    l.findSome? f = (l.find? p).map g := by
  induction l with
  | nil => rfl
  | cons a l ih =>
    rw [List.findSome?_cons, List.find?_cons, h a, ih]
    cases p a <;> rfl

theorem isPrefixOf?_eq_ite [BEq α] [LawfulBEq α] (front l : List α) :
    front.isPrefixOf? l = if front.isPrefixOf l then some (l.drop front.length) else none := by
  by_cases h : front.isPrefixOf l
  · obtain ⟨rest, rfl⟩ := List.isPrefixOf_iff_prefix.1 h
    rw [if_pos h, List.drop_left]
    exact List.isPrefixOf?_eq_some_iff_append_eq.2 rfl
  · rw [if_neg h, Option.eq_none_iff_forall_ne_some]
    intro rest hrest
    obtain rfl := List.isPrefixOf?_eq_some_iff_append_eq.1 hrest
    exact h (List.isPrefixOf_iff_prefix.2 (List.prefix_append front rest))

end ScalarExpr

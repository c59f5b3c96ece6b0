/-!
# Properties of characters as ranges

A property of characters is a list of closed ranges of code points.

## Main definitions

- `Unicode.CodeRange` — the code points from one to another
- `Unicode.Ranges` — a list of ranges, ascending and apart
- `Unicode.Ranges.contains` — whether a character lies in one of them
-/

namespace ScalarExpr

namespace Unicode

/-- The code points from `first` to `last`, both included. -/
structure CodeRange where
  first : Nat
  last : Nat
deriving DecidableEq

/-- Whether a code point lies in the range. -/
def CodeRange.contains (r : CodeRange) (n : Nat) : Bool := r.first ≤ n && n ≤ r.last

/-- What two ranges have in common. -/
def CodeRange.overlap? (r s : CodeRange) : Option CodeRange :=
  if max r.first s.first ≤ min r.last s.last then
    some ⟨max r.first s.first, min r.last s.last⟩
  else
    none

/-- Closed ranges of code points. -/
abbrev Ranges := List CodeRange

/-- A character belongs to the ranges if its code point lies in one of them. -/
def Ranges.contains (ranges : Ranges) (c : Char) : Bool := ranges.any (·.contains c.toNat)

end Unicode

end ScalarExpr

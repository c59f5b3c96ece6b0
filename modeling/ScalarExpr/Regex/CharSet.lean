import ScalarExpr.Unicode.Blank
import ScalarExpr.Unicode.CaseFolding
import ScalarExpr.Unicode.Word
/-!
# Sets of characters

A set of characters is the list of its ranges of code points, in ascending
order, so that two sets with the same members are mostly the same value and the
size of a set can be read off.

## Main definitions

- `Regex.CharSet` — a set, with union, intersection, difference and complement
- `Regex.CharSet.ofRanges` — the set of ranges that may overlap, in any order
- `Regex.CharSet.ignoringCase` — the set together with all case variants
- `Regex.CharSet.named?` — the sets with a name, all within ASCII

## Design notes

Surrogates are no characters, so the code point behind U+D7FF is U+E000. A
range may run across the surrogates, which makes no difference to its members.
-/

namespace ScalarExpr

namespace Regex

open Unicode (CodeRange Ranges)

/-- A set of characters, as ascending ranges of code points. -/
structure CharSet where
  ranges : Ranges
deriving DecidableEq

namespace CharSet

/-- Whether a character is in the set. -/
def contains (s : CharSet) (c : Char) : Bool := s.ranges.contains c

def empty : CharSet := ⟨[]⟩

/-- All characters. -/
def all : CharSet := ⟨[⟨0, 0x10FFFF⟩]⟩

def single (c : Char) : CharSet := ⟨[⟨c.toNat, c.toNat⟩]⟩

/-- All characters from `first` to `last`. -/
def range (first last : Char) : CharSet := ⟨[⟨first.toNat, last.toNat⟩]⟩

/-- Make those one that overlap or touch, of a range and others that start no
    earlier. -/
def absorb (r : CodeRange) : Ranges → Ranges
  | [] => [r]
  | s :: rest =>
    if s.first ≤ r.last + 1 then absorb ⟨r.first, max r.last s.last⟩ rest else r :: absorb s rest

/-- The set of some ranges. -/
def ofRanges (ranges : Ranges) : CharSet :=
  match ranges.mergeSort fun r s => r.first ≤ s.first with
  | [] => empty
  | r :: rest => ⟨absorb r rest⟩

/-- The set of some code points. -/
def ofCodePoints (points : List Nat) : CharSet := ofRanges (points.map fun n => ⟨n, n⟩)

def union (s t : CharSet) : CharSet := ofRanges (s.ranges ++ t.ranges)

def inter (s t : CharSet) : CharSet :=
  ⟨s.ranges.flatMap fun r => t.ranges.filterMap r.overlap?⟩

/-- The code point behind `n`. -/
def following (n : Nat) : Nat := if n = 0xD7FF then 0xE000 else n + 1

/-- The code point before `n`. -/
def preceding (n : Nat) : Nat := if n = 0xE000 then 0xD7FF else n - 1

/-- What is left of `r` without `s`. -/
def remainder (r s : CodeRange) : Ranges :=
  if s.last < r.first ∨ r.last < s.first then
    [r]
  else
    (if r.first < s.first then [⟨r.first, preceding s.first⟩] else []) ++
      (if s.last < r.last then [⟨following s.last, r.last⟩] else [])

def diff (s t : CharSet) : CharSet :=
  ⟨s.ranges.flatMap fun r => t.ranges.foldl (fun left q => left.flatMap (remainder · q)) [r]⟩

def symmDiff (s t : CharSet) : CharSet := (s.union t).diff (s.inter t)

/-- The gap between two ranges. Ranges that meet at the surrogates have none:
    there the code point behind the first range is the start of the second, and
    the two in ascending order stand for the gap. -/
def gap (r s : CodeRange) : CodeRange :=
  ⟨min (following r.last) (preceding s.first), max (following r.last) (preceding s.first)⟩

/-- The gaps behind ascending ranges. -/
def gapsBehind : Ranges → Ranges
  | [] => []
  | [r] => if r.last < 0x10FFFF then [⟨following r.last, 0x10FFFF⟩] else []
  | r :: s :: rest => gap r s :: gapsBehind (s :: rest)

def compl (s : CharSet) : CharSet :=
  match s.ranges with
  | [] => all
  | r :: rest =>
    ⟨(if 0 < r.first then [⟨0, preceding r.first⟩] else []) ++ gapsBehind (r :: rest)⟩

/-- The set, or its complement. -/
def complIf (negated : Bool) (s : CharSet) : CharSet := if negated then s.compl else s

/-- All characters that differ from a member at most in case: those that fold
    alike. -/
def ignoringCase (s : CharSet) : CharSet :=
  let has (t : CharSet) (n : Nat) := t.ranges.any (·.contains n)
  let folded := ofCodePoints ((Unicode.foldPairs.filter fun p => has s p.1 || has s p.2).map (·.2))
  let unfolded := ofCodePoints ((Unicode.foldPairs.filter fun p => has folded p.2).map (·.1))
  s.union (folded.union unfolded)

def digit : CharSet := ofRanges Unicode.decimalDigitRanges

def space : CharSet := ofRanges Unicode.blankRanges

def word : CharSet := ofRanges Unicode.wordRanges

def lower : CharSet := range 'a' 'z'

def upper : CharSet := range 'A' 'Z'

def asciiDigit : CharSet := range '0' '9'

/-- The sets with a name. -/
def named? : String → Option CharSet
  | "alnum" => some (asciiDigit.union (upper.union lower))
  | "alpha" => some (upper.union lower)
  | "ascii" => some (range '\x00' '\x7f')
  | "blank" => some ((single '\t').union (single ' '))
  | "cntrl" => some ((range '\x00' '\x1f').union (single '\x7f'))
  | "digit" => some asciiDigit
  | "graph" => some (range '!' '~')
  | "lower" => some lower
  | "print" => some (range ' ' '~')
  | "punct" => some ((range '!' '/').union ((range ':' '@').union
      ((range '[' '\x60').union (range '\x7b' '~'))))
  | "space" => some ((range '\t' '\r').union (single ' '))
  | "upper" => some upper
  | "word" => some (asciiDigit.union (upper.union (lower.union (single '_'))))
  | "xdigit" => some (asciiDigit.union ((range 'A' 'F').union (range 'a' 'f')))
  | _ => none

end CharSet

end Regex

end ScalarExpr

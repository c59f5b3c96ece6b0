import ScalarExpr.Regex.CharSet
/-!
# Patterns

Patterns are kept in a simple form, which the constructions below produce: a
sequence or a choice leans to the right, with no sequence or choice as its
first part; no part of a sequence is empty, and no two literals stand side by
side in it; a set of one character is a literal.

## Main definitions

- `Regex.Pattern` — the patterns
- `Regex.Pattern.ofSet` — one character of a set
- `Regex.Pattern.ofParts` — patterns one after another
- `Regex.Pattern.choice` — patterns to choose from
- `Regex.Pattern.times` — a pattern repeated
- `Regex.Pattern.leastLength?` — the least length of a match

## Design notes

The simple form decides how large the automaton of a pattern is, and so which
patterns are too large.
-/

namespace ScalarExpr

namespace Regex

/-- A condition on a position that takes no text. -/
inductive Assertion where
  | textStart
  | textEnd
  | lineStart
  | lineEnd
  | wordBoundary
  | notWordBoundary
  /-- A word begins here. -/
  | wordStart
  /-- A word ends here. -/
  | wordEnd
  /-- No word character stands before. -/
  | noWordBefore
  /-- No word character stands behind. -/
  | noWordAfter
deriving DecidableEq

/-- A pattern. -/
inductive Pattern where
  | empty
  /-- One or more characters, one after another. -/
  | literal (text : List Char)
  | one (set : CharSet)
  | assertion (a : Assertion)
  | sequence (first rest : Pattern)
  | either (first rest : Pattern)
  /-- At least `least` copies, and at most `most` if that is given; a greedy
      repetition tries more copies first. -/
  | repeated (body : Pattern) (least : Nat) (most : Option Nat) (greedy : Bool)
  /-- A group that is numbered. -/
  | group (index : Nat) (body : Pattern)
deriving DecidableEq

namespace Pattern

-- ════════════════════════════════════════════════════════════════════════
-- Lengths and ends of matches
-- ════════════════════════════════════════════════════════════════════════

/-- Whether no match takes any text. -/
def takesNoText : Pattern → Bool
  | empty => true
  | literal _ => false
  | one _ => false
  | assertion _ => true
  | sequence first rest => first.takesNoText && rest.takesNoText
  | either first rest => first.takesNoText && rest.takesNoText
  | repeated body _ _ _ => body.takesNoText
  | group _ body => body.takesNoText

/-- The least number of characters that a match takes; `none` if some part of
    the pattern, even one that may be left out, matches nothing. -/
def leastLength? : Pattern → Option Nat
  | empty => some 0
  | literal text => some text.length
  | one set => if set.ranges = [] then none else some 1
  | assertion _ => some 0
  | sequence first rest => do return (← first.leastLength?) + (← rest.leastLength?)
  | either first rest => do return min (← first.leastLength?) (← rest.leastLength?)
  | repeated body least _ _ => do return (← body.leastLength?) * least
  | group _ body => body.leastLength?

/-- Whether a match is seen to begin at the start of the text. -/
def beginsAtStart : Pattern → Bool
  | assertion a => a = .textStart
  | sequence first rest => first.beginsAtStart || (first.takesNoText && rest.beginsAtStart)
  | either first rest => first.beginsAtStart && rest.beginsAtStart
  | repeated body least _ _ => 0 < least && body.beginsAtStart
  | group _ body => body.beginsAtStart
  | _ => false

/-- Whether a match is seen to finish at the end of the text. -/
def finishesAtEnd : Pattern → Bool
  | assertion a => a = .textEnd
  | sequence first rest => rest.finishesAtEnd || (rest.takesNoText && first.finishesAtEnd)
  | either first rest => first.finishesAtEnd && rest.finishesAtEnd
  | repeated body least _ _ => 0 < least && body.finishesAtEnd
  | group _ body => body.finishesAtEnd
  | _ => false

-- ════════════════════════════════════════════════════════════════════════
-- Sets and sequences
-- ════════════════════════════════════════════════════════════════════════

/-- One character of a set. -/
def ofSet (set : CharSet) : Pattern :=
  match set.ranges with
  | [r] => if r.first = r.last then literal [Char.ofNat r.first] else one set
  | _ => one set

/-- The parts of a sequence; the empty pattern has none. -/
def parts : Pattern → List Pattern
  | empty => []
  | sequence first rest => first :: rest.parts
  | p => [p]

/-- A part before others; two literals become one. -/
def beforeParts : Pattern → List Pattern → List Pattern
  | literal s, literal t :: rest => literal (s ++ t) :: rest
  | p, rest => p :: rest

/-- Parts as they are, one after another. -/
def inSequence : List Pattern → Pattern
  | [] => empty
  | [p] => p
  | p :: rest => sequence p (inSequence rest)

/-- Patterns one after another. -/
def ofParts (patterns : List Pattern) : Pattern :=
  inSequence ((patterns.flatMap parts).foldr beforeParts [])

-- ════════════════════════════════════════════════════════════════════════
-- Choices
-- ════════════════════════════════════════════════════════════════════════

/-- What a pattern offers to choose from. -/
def alternatives : Pattern → List Pattern
  | either first rest => first :: rest.alternatives
  | p => [p]

/-- Alternatives as they are; without any, nothing matches. -/
def inChoice : List Pattern → Pattern
  | [] => one .empty
  | [p] => p
  | p :: rest => either p (inChoice rest)

/-- The character of a literal that is only one. -/
def char? : Pattern → Option Char
  | literal [c] => some c
  | _ => none

/-- The set of a pattern that is a set. -/
def set? : Pattern → Option CharSet
  | one set => some set
  | _ => none

/-- The parts of a pattern that is a sequence. -/
def sequenceParts? : Pattern → Option (List Pattern)
  | sequence first rest => some (first :: rest.parts)
  | _ => none

/-- Patterns to choose from. Alternatives that are all characters, or all sets,
    make one set. -/
def anyOf (patterns : List Pattern) : Pattern :=
  let choices := patterns.flatMap alternatives
  match choices.mapM char?, choices.mapM set? with
  | some chars, _ => ofSet (.ofCodePoints (chars.map Char.toNat))
  | none, some sets => ofSet (sets.foldl CharSet.union .empty)
  | none, none => inChoice choices

/-- The parts with which both of two sequences begin. -/
def commonParts : List Pattern → List Pattern → List Pattern
  | p :: ps, q :: qs => if p = q then p :: commonParts ps qs else []
  | _, _ => []

/-- Patterns to choose from. Alternatives that are all sequences and begin alike
    differ only in what comes behind that. -/
def choice (patterns : List Pattern) : Pattern :=
  let choices := patterns.flatMap alternatives
  match choices.mapM sequenceParts? with
  | some (first :: second :: others) =>
    let common := (second :: others).foldl commonParts first
    if common = [] then anyOf choices
    else
      let ends := (first :: second :: others).map fun s => ofParts (s.drop common.length)
      ofParts (common ++ [anyOf ends])
  | _ => anyOf choices

-- ════════════════════════════════════════════════════════════════════════
-- Repetitions
-- ════════════════════════════════════════════════════════════════════════

/-- A pattern repeated. One that takes no text has no use for a second copy. -/
def times (body : Pattern) (least : Nat) (most : Option Nat) (greedy : Bool) : Pattern :=
  let least := if body.takesNoText then min least 1 else least
  let most := if body.takesNoText then some (min (most.getD 1) 1) else most
  if most = some 0 then empty
  else if least = 1 ∧ most = some 1 then body
  else repeated body least most greedy

end Pattern

end Regex

end ScalarExpr

import ScalarExpr.Regex.Pattern
/-!
# Where patterns match

A pattern is laid over a text by replacing each set and each assertion with the
positions at which it holds. What is left moves sets of positions: from a set
of starts to the set of ends. No path is ever tried twice, so matching takes
polynomial time.

## Main definitions

- `Regex.Positions` — a set of positions in a text, as bits
- `Regex.Walk` — a pattern laid over a text
- `Regex.Walk.reach` — the positions where a walk from given starts can end
- `Regex.Pattern.occursIn` — whether a pattern matches somewhere in a text

## Design notes

Only whether there is a match is asked, so groups do not record what they
match, and it makes no difference which of two matches comes first.
-/

namespace ScalarExpr

namespace Regex

/-- A set of positions: bit `i` stands for the position before character `i`,
    and the last position is behind the text. -/
abbrev Positions := Nat

namespace Positions

/-- Every position of a text of the given length. -/
def all (length : Nat) : Positions := 1 <<< (length + 1) - 1

/-- The positions right before a character that is allowed. -/
def before (allowed : Char → Bool) : List Char → Positions
  | [] => 0
  | c :: cs => (if allowed c then 1 else 0) + 2 * before allowed cs

/-- The positions right after a character that is allowed. -/
def after (allowed : Char → Bool) (cs : List Char) : Positions := before allowed cs <<< 1

/-- The positions right before a word character. -/
def beforeWord (cs : List Char) : Positions := before CharSet.word.contains cs

/-- The positions right after a word character. -/
def afterWord (cs : List Char) : Positions := after CharSet.word.contains cs

/-- The positions at which an assertion holds. -/
def satisfying (cs : List Char) : Assertion → Positions
  | .textStart => 1
  | .textEnd => 1 <<< cs.length
  | .lineStart => 1 ||| after (· = '\n') cs
  | .lineEnd => 1 <<< cs.length ||| before (· = '\n') cs
  | .wordBoundary => beforeWord cs ^^^ afterWord cs
  | .notWordBoundary => all cs.length ^^^ (beforeWord cs ^^^ afterWord cs)
  | .wordStart => beforeWord cs &&& (all cs.length ^^^ afterWord cs)
  | .wordEnd => afterWord cs &&& (all cs.length ^^^ beforeWord cs)
  | .noWordBefore => all cs.length ^^^ afterWord cs
  | .noWordAfter => all cs.length ^^^ beforeWord cs

end Positions

/-- A pattern laid over a text. -/
inductive Walk where
  /-- Stay, where that is allowed. -/
  | stay (allowed : Positions)
  /-- Go to the next position, where that is allowed. -/
  | step (allowed : Positions)
  | sequence (first second : Walk)
  | either (first second : Walk)
  /-- Walk the body `least` times, then up to `more` times. -/
  | repeated (body : Walk) (least more : Nat)

/-- Apply `f` to `s` up to `n` times, or until nothing changes. -/
def iterate (f : Positions → Positions) : Nat → Positions → Positions
  | 0, s => s
  | n + 1, s =>
    let t := f s
    if t = s then s else iterate f n t

/-- The positions at which a walk from one of the starts can end. -/
def Walk.reach : Walk → Positions → Positions
  | stay allowed, starts => starts &&& allowed
  | step allowed, starts => (starts &&& allowed) <<< 1
  | sequence first second, starts => second.reach (first.reach starts)
  | either first second, starts => first.reach starts ||| second.reach starts
  | repeated body least more, starts =>
    iterate (fun s => s ||| body.reach s) more (iterate body.reach least starts)

/-- A literal laid over a text: a step for each of its characters. -/
def Walk.along (cs : List Char) : List Char → Walk
  | [] => .stay (.all cs.length)
  | c :: rest => .sequence (.step (.before (· = c) cs)) (along cs rest)

/-- Lay a pattern over a text. A repetition without an upper bound needs no more
    copies than there are positions: each one but the last adds a position. -/
def Pattern.over (cs : List Char) : Pattern → Walk
  | empty => .stay (.all cs.length)
  | literal text => .along cs text
  | one set => .step (.before set.contains cs)
  | assertion a => .stay (.satisfying cs a)
  | sequence first rest => .sequence (first.over cs) (rest.over cs)
  | either first rest => .either (first.over cs) (rest.over cs)
  | repeated body least most _ =>
    .repeated (body.over cs) least ((most.map (· - least)).getD (cs.length + 1))
  | group _ body => body.over cs

/-- Whether a pattern matches somewhere in a text. -/
def Pattern.occursIn (p : Pattern) (cs : List Char) : Bool :=
  (p.over cs).reach (.all cs.length) != 0

end Regex

end ScalarExpr

import ScalarExpr.Regex.Footprint.CharSet
import ScalarExpr.Regex.Footprint.Literals
import ScalarExpr.Regex.Pattern
/-!
# The room that a pattern takes

A pattern is read by two automata, one from the start of the text and one from
the end. A repetition is built copy by copy, so it is the bounds of repetitions
that make automata large.

## Main definitions

- `Regex.Pattern.build` — the states for a pattern
- `Regex.Pattern.buildWhole` — these with what stands around them
- `Regex.Pattern.fits` — whether both automata keep within the limit

## Design notes

The states are made in a fixed order, since the numbers of states decide which
of them are shared.
-/

namespace ScalarExpr

namespace Regex

namespace Build

/-- What a pattern of no parts takes: one state to pass through. -/
def pass : Build Ending := do
  let _ ← state
  return .plain

/-- One behind the other. -/
def andThen (first second : Build Ending) : Build Ending := do
  let ending ← first
  let last ← second
  ending.leadOn
  return last

/-- Further copies behind one that has been built. -/
def moreCopies (copy : Build Ending) : Nat → Ending → Build Ending
  | 0, ending => return ending
  | n + 1, ending => do
    let next ← copy
    ending.leadOn
    moreCopies copy n next

/-- Some copies, one behind the other. -/
def copies (copy : Build Ending) : Nat → Build Ending
  | 0 => pass
  | n + 1 => do moreCopies copy n (← copy)

/-- Copies that may be left out, each behind a choice to leave it out with all
    that follow. -/
def optionalCopies (copy : Build Ending) : Nat → Ending → Build Unit
  | 0, ending => ending.leadOn
  | n + 1, ending => do
    choice 2
    let next ← copy
    ending.leadOn
    optionalCopies copy n next

/-- A choice among alternatives. The choice is made after the second of them,
    and they all lead to one state at the end. -/
def amongst : List (Build Ending) → Build Ending
  | [] => pass
  | [only] => only
  | first :: second :: others => do
    let firstEnding ← first
    let secondEnding ← second
    choice 2
    let _ ← state
    firstEnding.leadOn
    secondEnding.leadOn
    others.forM fun other => do
      let ending ← other
      option
      ending.leadOn
    return .plain

/-- Any number of copies. If each copy takes text, one choice between another
    copy and going on will do; otherwise there is one before the first copy and
    one behind each. -/
def anyNumber (takesText : Bool) (copy : Build Ending) : Build Ending := do
  if takesText then
    choice 1
    let ending ← copy
    ending.leadOn
    return .choice
  else
    let ending ← copy
    choice 2
    choice 2
    let _ ← state
    ending.leadOn
    return .plain

/-- A repetition. -/
def repetition (takesText : Bool) (copy : Build Ending) (least : Nat) :
    (most : Option Nat) → Build Ending
  | none =>
    if least = 0 then anyNumber takesText copy
    else do
      let ending ← copies copy least
      choice 1
      ending.leadOn
      return .choice
  | some most =>
    if least = 0 ∧ most = 1 then do
      choice 2
      let ending ← copy
      let _ ← state
      ending.leadOn
      return .plain
    else if least = most then copies copy least
    else do
      let ending ← copies copy least
      let _ ← state
      optionalCopies copy (most - least) ending
      return .plain

end Build

namespace Pattern

/-- The words of a choice between two or more literals; reading backward, they
    are spelled backward. -/
def words? (direction : Direction) (p : Pattern) : Option (List Word) :=
  let word? : Pattern → Option Word
    | literal text =>
      match direction with
      | .forward => some (literalBytes text)
      | .backward => some (literalBytes text).reverse
    | _ => none
  match p.alternatives with
  | first :: second :: others => (first :: second :: others).mapM word?
  | _ => none

/-- The states for a pattern, given those for each of its alternatives. -/
def buildFrom (direction : Direction) (p : Pattern) (alternatives : List (Build Ending)) :
    Build Ending :=
  match p.words? direction with
  | some words => do
    buildWords words
    return .plain
  | none => Build.amongst alternatives

/-- The states for each alternative of a pattern. -/
def buildAlternatives (direction : Direction) : Pattern → List (Build Ending)
  | either first rest =>
    first.buildFrom direction (first.buildAlternatives direction) ::
      rest.buildAlternatives direction
  | empty => [Build.pass]
  | literal text => [Build.copies Build.pass (literalBytes text).length]
  | one set => [do set.build direction; return .plain]
  | assertion _ => [Build.pass]
  | sequence first rest =>
    let builtFirst := first.buildFrom direction (first.buildAlternatives direction)
    let builtRest := rest.buildFrom direction (rest.buildAlternatives direction)
    match direction with
    | .forward => [builtFirst.andThen builtRest]
    | .backward => [builtRest.andThen builtFirst]
  | repeated body least most _ =>
    let copy := body.buildFrom direction (body.buildAlternatives direction)
    [Build.repetition (0 < body.leastLength?.getD 0) copy least most]
  | group _ body =>
    let built := body.buildFrom direction (body.buildAlternatives direction)
    match direction with
    | .forward => [(Build.pass.andThen built).andThen Build.pass]
    | .backward => [built]

/-- The states for a pattern. -/
def build (direction : Direction) (p : Pattern) : Build Ending :=
  p.buildFrom direction (p.buildAlternatives direction)

/-- The states for a pattern, those that find the place to begin, and the one
    that tells a match. Reading forward, the match is a group too. -/
def buildWhole (direction : Direction) (p : Pattern) : Build Unit := do
  let atEnd := match direction with
    | .forward => p.beginsAtStart
    | .backward => p.finishesAtEnd
  if atEnd then
    let _ ← Build.state
  else
    -- any byte, any number of times
    Build.choice 2
    let _ ← Build.state
    let _ ← Build.table 1
  let ending ← (match direction with
    | .forward => (group 0 p).build direction
    | .backward => p.build direction)
  let _ ← Build.state
  ending.leadOn

/-- Whether both automata of a pattern keep within the limit. -/
def fits (p : Pattern) : Bool :=
  ((p.buildWhole .forward).run {}).isSome && ((p.buildWhole .backward).run {}).isSome

end Pattern

end Regex

end ScalarExpr

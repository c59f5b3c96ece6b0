import ScalarExpr.Regex.Class
import ScalarExpr.Regex.Footprint.Pattern
/-!
# Reading patterns

A pattern is read from left to right in one pass. Open groups wait on a stack,
each with the flags to return to and what was read before it.

The dialect: literals, `.`, `^`, `$`, escapes, classes, groups (plain, named,
without a number, with flags of their own), flags for the rest of a group,
alternatives, and repetitions `*`, `+`, `?`, `{n}`, `{n,}`, `{n,m}` with a `?`
behind them or not. Look-around and references to groups are not in it.

## Main definitions

- `Regex.Pattern.parse?` — the pattern that a text spells
- `Regex.Pattern.read?` — the same, unless its automata are too large

## Design notes

Two limits keep patterns small: how deep their parts are nested, and how much
room their automata take.
-/

namespace ScalarExpr

namespace Regex

/-- A part of a pattern as it was read. -/
structure Part where
  pattern : Pattern
  /-- How many parts contain one another below this one, itself included. -/
  depth : Nat
  /-- A change of flags is a part that cannot be repeated. -/
  repeatable : Bool := true

namespace Part

/-- A character of a set. -/
def ofSet (set : CharSet) (depth : Nat) : Part := ⟨.ofSet set, depth, true⟩

/-- A literal character. -/
def ofChar (flags : Flags) (c : Char) : Part := ofSet (classSet flags false (.single c)) 0

/-- A change of flags matches without taking text. -/
def flagChange : Part := ⟨.empty, 0, false⟩

/-- Some parts as one, the last one given first. Two or more are one level
    deeper than the deepest of them. -/
def join (combine : List Pattern → Pattern) : List Part → Part
  | [] => ⟨.empty, 0, true⟩
  | [p] => p
  | parts =>
    ⟨combine (parts.reverse.map (·.pattern)), (parts.map (·.depth)).foldl max 0 + 1, true⟩

/-- Parts one after another, the last one first. -/
def sequence (parts : List Part) : Part := join .ofParts parts

/-- Parts to choose from, the last one first. -/
def choice (parts : List Part) : Part := join .choice parts

/-- A part in parentheses, which may have a number. -/
def group (number : Option Nat) (p : Part) : Part :=
  match number with
  | some n => ⟨.group n p.pattern, p.depth + 1, true⟩
  | none => ⟨p.pattern, p.depth + 1, true⟩

/-- A part repeated. -/
def repeated (p : Part) (least : Nat) (most : Option Nat) (greedy : Bool) : Part :=
  ⟨p.pattern.times least most greedy, p.depth + 1, true⟩

end Part

/-- What has been read of one group: the alternatives that are complete, and
    the parts of the current one, both with the last first. -/
structure Branches where
  complete : List Part := []
  current : List Part := []

namespace Branches

def push (b : Branches) (p : Part) : Branches := { b with current := p :: b.current }

/-- The alternatives as one part. -/
def close (b : Branches) : Part := Part.choice (Part.sequence b.current :: b.complete)

end Branches

/-- What waits for a group to be closed: the flags to return to, what was read
    before the group, and the number of the group, if it has one. -/
structure Enclosing where
  flags : Flags
  branches : Branches
  number : Option Nat

/-- A pattern half read: the flags in force, the innermost group, what stands
    around it, the names given so far and the count of groups with a number. -/
structure Progress where
  flags : Flags
  inner : Branches
  outer : List Enclosing := []
  names : List (List Char) := []
  numbered : Nat := 0

/-- How deep the parts of a pattern may be nested. -/
def depthLimit : Nat := 250

/-- The flags between `(?` and `:` or `)`: those after a hyphen are switched
    off. No letter stands twice, and the hyphen once, before a letter. The result
    says whether a `:` ended them. -/
def readFlags? (flags : Flags) (negated dangling : Bool) (seen : List Char) :
    List Char → Option (Flags × Bool × List Char)
  | [] => none
  | ':' :: cs => if dangling then none else some (flags, true, cs)
  | ')' :: cs => if dangling then none else some (flags, false, cs)
  | '-' :: cs => if negated then none else readFlags? flags true true seen cs
  | c :: cs =>
    if seen.contains c then none
    else
      match flags.switch? (!negated) c with
      | some flags => readFlags? flags negated false (c :: seen) cs
      | none => none

/-- The name of a group up to the angle bracket. It starts with a letter or an
    underscore and goes on with these, numbers, points and brackets. -/
def readName? (cs : List Char) : Option (List Char × List Char) :=
  match cs.takeWhile (· != '>'), cs.dropWhile (· != '>') with
  | first :: others, _ :: rest =>
    if (first = '_' || Unicode.isAlphabetic first) && others.all (fun c =>
        c = '_' || c = '.' || c = '[' || c = ']' || Unicode.isAlphabetic c ||
          Unicode.isDecimalDigit c || Unicode.isOtherNumber c) then
      some (first :: others, rest)
    else
      none
  | _, _ => none

/-- Open a group without a number, in which some flags hold. -/
def openGroup (p : Progress) (flags : Flags) (rest : List Char) : Step Progress Part :=
  .goOn { p with flags, inner := {}, outer := ⟨p.flags, p.inner, none⟩ :: p.outer } rest

/-- Open a group with the next number. -/
def openNumbered (p : Progress) (rest : List Char) : Step Progress Part :=
  let number := p.numbered + 1
  .goOn { p with
    inner := {}, outer := ⟨p.flags, p.inner, some number⟩ :: p.outer, numbered := number } rest

/-- Open a group with a name, which no other group has. -/
def openNamed? (p : Progress) (cs : List Char) : Option (Step Progress Part) := do
  let (name, rest) ← readName? cs
  if p.names.contains name then none
  else some (openNumbered { p with names := name :: p.names } rest)

/-- What follows an opening parenthesis. -/
def readGroup? (p : Progress) : List Char → Option (Step Progress Part)
  | '?' :: '=' :: _ => none
  | '?' :: '!' :: _ => none
  | '?' :: '<' :: '=' :: _ => none
  | '?' :: '<' :: '!' :: _ => none
  | '?' :: 'P' :: '<' :: cs => openNamed? p cs
  | '?' :: '<' :: cs => openNamed? p cs
  | '?' :: ')' :: _ => none
  | '?' :: cs => do
    let (flags, isGroup, rest) ← readFlags? p.flags false false [] cs
    if isGroup then some (openGroup p flags rest)
    else some (.goOn { p with flags := flags, inner := p.inner.push .flagChange } rest)
  | cs => some (openNumbered p cs)

/-- Close the innermost group. -/
def closeGroup? (p : Progress) (rest : List Char) : Option (Step Progress Part) :=
  match p.outer with
  | [] => none
  | around :: outer =>
    some (.goOn { p with
      flags := around.flags
      inner := around.branches.push (p.inner.close.group around.number)
      outer } rest)

/-- A bound of a repetition, white space around it allowed; it fits 32 bits. -/
def readBound? (cs : List Char) : Option (Nat × List Char) :=
  let cs := cs.dropWhile Unicode.isBlank
  let digits := cs.takeWhile Char.isDigit
  let n := Nat.ofDigitChars 10 digits 0
  if digits ≠ [] ∧ n < UInt32.size then
    some (n, (cs.dropWhile Char.isDigit).dropWhile Unicode.isBlank)
  else
    none

/-- The bounds of a repetition, the opening brace already taken. -/
def readBounds? (cs : List Char) : Option ((Nat × Option Nat) × List Char) := do
  let (least, rest) ← readBound? cs
  match rest with
  | '\x7d' :: rest => some ((least, some least), rest)
  | ',' :: '\x7d' :: rest => some ((least, none), rest)
  | ',' :: rest =>
    let (most, rest) ← readBound? rest
    match rest with
    | '\x7d' :: rest => if least ≤ most then some ((least, some most), rest) else none
    | _ => none
  | _ => none

/-- Repeat the last part. A question mark behind the repetition makes it try
    fewer copies first, or more copies where that is the rule. -/
def repeatLast? (p : Progress) (least : Nat) (most : Option Nat) (rest : List Char) :
    Option (Step Progress Part) :=
  match p.inner.current with
  | last :: earlier =>
    if last.repeatable then
      let (marked, rest) := match rest with
        | '?' :: rest => (true, rest)
        | rest => (false, rest)
      let repeated := last.repeated least most (marked == p.flags.ungreedy)
      some (.goOn { p with inner := { p.inner with current := repeated :: earlier } } rest)
    else
      none
  | [] => none

/-- The part that an atom stands for. -/
def Part.ofAtom (flags : Flags) : Atom → Part
  | .literal c => .ofChar flags c
  | .set s => .ofSet s 0
  | .assertion a => ⟨.assertion a, 0, true⟩

/-- One step through a pattern. -/
def patternStep (p : Progress) (cs : List Char) : Option (Step Progress Part) :=
  let push (part : Part) (rest : List Char) := some (.goOn { p with inner := p.inner.push part } rest)
  match cs with
  | [] => if p.outer.isEmpty then some (.done p.inner.close []) else none
  | '(' :: cs => readGroup? p cs
  | ')' :: cs => closeGroup? p cs
  | '|' :: cs =>
    some (.goOn { p with
      inner := { complete := Part.sequence p.inner.current :: p.inner.complete } } cs)
  | '[' :: cs => do
    let ((set, depth), rest) ← readClass? p.flags cs
    push (.ofSet set depth) rest
  | '?' :: cs => repeatLast? p 0 (some 1) cs
  | '*' :: cs => repeatLast? p 0 none cs
  | '+' :: cs => repeatLast? p 1 none cs
  | '\x7b' :: cs => do
    let ((least, most), rest) ← readBounds? cs
    repeatLast? p least most rest
  | '\\' :: cs => do
    let (atom, rest) ← readEscape? cs
    push (.ofAtom p.flags atom) rest
  | '.' :: cs =>
    push (.ofSet (if p.flags.dotAll then .all else (CharSet.single '\n').compl) 0) cs
  | '^' :: cs =>
    push (.ofAtom p.flags (.assertion (if p.flags.multiLine then .lineStart else .textStart))) cs
  | '$' :: cs =>
    push (.ofAtom p.flags (.assertion (if p.flags.multiLine then .lineEnd else .textEnd))) cs
  | c :: cs => push (.ofChar p.flags c) cs

/-- The pattern that a text spells; `none` if the text is no pattern, or one that is nested
    too deep. -/
def Pattern.parse? (cs : List Char) : Option Pattern := do
  let (part, _) ← readBySteps patternStep { flags := .none, inner := {} } cs
  if part.depth ≤ depthLimit then some part.pattern else none

/-- The pattern that a text spells, if its automata are not too large. -/
def Pattern.read? (cs : List Char) : Option Pattern := (Pattern.parse? cs).filter Pattern.fits

end Regex

end ScalarExpr

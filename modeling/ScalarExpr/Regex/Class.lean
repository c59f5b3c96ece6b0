import ScalarExpr.Regex.Escape
import ScalarExpr.Regex.Flags
import ScalarExpr.Regex.Progress
/-!
# Bracketed classes

A class lists characters, ranges, escapes, named sets and further classes
between brackets. Two classes are combined by `&&` (intersection), `--`
(difference) and `~~` (symmetric difference), all of one precedence, from the
left.

## Main definitions

- `Regex.readClass?` — reads a class, its opening bracket already taken

## Design notes

Every bracket and every operator that is open waits on a stack. A class carries
how deep its parts are nested, since patterns have a limit on that.
-/

namespace ScalarExpr

namespace Regex

/-- The members gathered so far in one bracket: how many parts they came from,
    and how deep these are nested. -/
structure Members where
  set : CharSet := .empty
  count : Nat := 0
  depth : Nat := 0

namespace Members

def add (m : Members) (s : CharSet) (depth : Nat) : Members :=
  ⟨m.set.union s, m.count + 1, max m.depth depth⟩

/-- Two or more parts are one level deeper than the deepest of them. -/
def nesting (m : Members) : Nat := if m.count ≤ 1 then m.depth else m.depth + 1

end Members

/-- What waits for a class to be finished. -/
inductive Waiting where
  /-- An open bracket, and the members of the one around it. -/
  | bracket (negated : Bool) (around : Members)
  /-- An operator, and its left side. -/
  | operator (combine : CharSet → CharSet → CharSet) (left : CharSet) (depth : Nat)

/-- The members of a bracket and all that waits around it. -/
structure ClassState where
  members : Members
  waiting : List Waiting

/-- A set as a class of its own: its case variants are added before the
    complement is taken. -/
def classSet (flags : Flags) (negated : Bool) (set : CharSet) : CharSet :=
  (if flags.ignoreCase then set.ignoringCase else set).complIf negated

/-- A named set such as `[:alpha:]`, its first bracket already taken. -/
def readNamed? (flags : Flags) : List Char → Option (CharSet × List Char)
  | ':' :: cs =>
    let (negated, cs) := match cs with
      | '^' :: cs => (true, cs)
      | cs => (false, cs)
    match cs.dropWhile (· != ':') with
    | ':' :: ']' :: rest =>
      (CharSet.named? (String.ofList (cs.takeWhile (· != ':')))).map
        (classSet flags negated ·, rest)
    | _ => none
  | _ => none

/-- The start of a bracket, the bracket already taken: a negation, then hyphens,
    or else a closing bracket, that stand for themselves. -/
def readOpening (cs : List Char) : Bool × Members × List Char :=
  let (negated, cs) := match cs with
    | '^' :: cs => (true, cs)
    | cs => (false, cs)
  let hyphens := cs.takeWhile (· == '-')
  let cs := cs.dropWhile (· == '-')
  let hyphen : Members := hyphens.foldl (fun m _ => m.add (.single '-') 0) {}
  match cs with
  | ']' :: rest =>
    if hyphens = [] then (negated, hyphen.add (.single ']') 0, rest) else (negated, hyphen, cs)
  | _ => (negated, hyphen, cs)

/-- A single character or an escape. -/
def readMember? : List Char → Option (Atom × List Char)
  | '\\' :: cs => readEscape? cs
  | c :: cs => some (.literal c, cs)
  | [] => none

/-- A member, or a range between two characters. A hyphen before a closing
    bracket or before another hyphen makes no range. -/
def readRange? (cs : List Char) : Option (CharSet × List Char) := do
  let (first, rest) ← readMember? cs
  let isRange := match rest with
    | '-' :: ']' :: _ => false
    | '-' :: '-' :: _ => false
    | '-' :: _ => true
    | _ => false
  if isRange then
    let (last, rest) ← readMember? (rest.drop 1)
    match first, last with
    | .literal a, .literal b => if a ≤ b then some (.range a b, rest) else none
    | _, _ => none
  else
    match first with
    | .literal c => some (.single c, rest)
    | .set s => some (s, rest)
    | .assertion _ => none

/-- Apply the operator that waits for its right side, if there is one. -/
def applyWaiting (flags : Flags) (set : CharSet) (depth : Nat) :
    List Waiting → CharSet × Nat × List Waiting
  | .operator combine left leftDepth :: waiting =>
    (combine (classSet flags false left) (classSet flags false set), max leftDepth depth + 1,
      waiting)
  | waiting => (set, depth, waiting)

/-- Put an operator behind what the bracket holds so far. -/
def pushOperator (flags : Flags) (combine : CharSet → CharSet → CharSet) (s : ClassState) :
    ClassState :=
  let (left, depth, waiting) := applyWaiting flags s.members.set s.members.nesting s.waiting
  ⟨{}, .operator combine left depth :: waiting⟩

/-- Close a bracket. -/
def closeBracket (flags : Flags) (s : ClassState) (rest : List Char) :
    Option (Step ClassState (CharSet × Nat)) :=
  match applyWaiting flags s.members.set s.members.nesting s.waiting with
  | (set, depth, .bracket negated around :: waiting) =>
    let closed := classSet flags negated set
    if waiting.isEmpty then
      some (.done (closed, depth + 1) rest)
    else
      some (.goOn ⟨around.add closed (depth + 1), waiting⟩ rest)
  | _ => none

/-- One step through a class. -/
def classStep (flags : Flags) (s : ClassState) :
    List Char → Option (Step ClassState (CharSet × Nat))
  | [] => none
  | '[' :: cs =>
    match readNamed? flags cs with
    | some (named, rest) =>
      some (.goOn { s with members := s.members.add named 0 } rest)
    | none =>
      let (negated, members, rest) := readOpening cs
      some (.goOn ⟨members, .bracket negated s.members :: s.waiting⟩ rest)
  | ']' :: cs => closeBracket flags s cs
  | '&' :: '&' :: cs => some (.goOn (pushOperator flags .inter s) cs)
  | '-' :: '-' :: cs => some (.goOn (pushOperator flags .diff s) cs)
  | '~' :: '~' :: cs => some (.goOn (pushOperator flags .symmDiff s) cs)
  | cs => (readRange? cs).map fun (set, rest) =>
    .goOn { s with members := s.members.add set 0 } rest

/-- Read a class whose opening bracket has been taken: its set and the depth of
    its nesting. -/
def readClass? (flags : Flags) (cs : List Char) : Option ((CharSet × Nat) × List Char) :=
  let (negated, members, rest) := readOpening cs
  readBySteps (classStep flags) ⟨members, [.bracket negated {}]⟩ rest

end Regex

end ScalarExpr

import ScalarExpr.Regex.ByteRange
import ScalarExpr.Regex.Footprint.Basic
/-!
# The room that a choice of literals takes

Literals to choose from are read as a tree: words that begin with the same byte
share the state behind it. An earlier word takes precedence, so words on either
side of one that has ended do not share.

## Main definitions

- `Regex.buildWords` — the states for a choice of words
-/

namespace ScalarExpr

namespace Regex

/-- A word, as its bytes. -/
abbrev Word := List UInt8

/-- The words before, between and behind those that have ended. -/
def wordGroups : List Word → List (List Word)
  | [] => [[]]
  | [] :: rest => [] :: wordGroups rest
  | word :: rest =>
    match wordGroups rest with
    | [] => [[word]]
    | group :: groups => (word :: group) :: groups

/-- Ends that repeat one at the very front make no difference. -/
def skipRepeatedEnds : List Word → List Word
  | [] :: [] :: rest => skipRepeatedEnds ([] :: rest)
  | words => words

/-- The words that begin with a byte, without it. -/
def wordsBehind (byte : UInt8) (words : List Word) : List Word :=
  words.filterMap fun
    | [] => none
    | b :: rest => if b = byte then some rest else none

/-- The states of a tree of words, none of which has more than `fuel` bytes. A
    group takes a state from which its first bytes lead on; a choice then has an
    option for each group with words, and one for each end. -/
def buildTree : (fuel : Nat) → List Word → Build Unit
  | 0, _ => pure ()
  | fuel + 1, words => do
    let groups := wordGroups (skipRepeatedEnds words)
    groups.forM fun group => do
      let bytes := (group.filterMap List.head?).eraseDups
      bytes.forM fun byte => do
        let behind := wordsBehind byte group
        if behind.any (!·.isEmpty) then buildTree fuel behind
      match bytes with
      | [] => pure ()
      | [_] => do let _ ← Build.state
      | _ => do let _ ← Build.table bytes.length
    Build.choice ((groups.filter (!·.isEmpty)).length + (groups.length - 1))

/-- The states for a choice of words, which lead to one state at the end. -/
def buildWords (words : List Word) : Build Unit := do
  let _ ← Build.state
  buildTree ((words.map List.length).foldl max 0) words

end Regex

end ScalarExpr

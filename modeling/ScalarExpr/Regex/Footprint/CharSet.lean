import ScalarExpr.Regex.ByteRange
import ScalarExpr.Regex.CharSet
import ScalarExpr.Regex.Footprint.Shared
/-!
# The room that a set of characters takes

An automaton for a set reads the bytes of one character. Read forward, the
sequences of byte ranges that spell the set share the states with which they
end; read backward, a sequence shares those of the last sequences that begin
alike.

## Main definitions

- `Regex.Direction` — which end of the text an automaton starts at
- `Regex.CharSet.build` — the states for one character of a set

## Design notes

The sequences come in ascending order. So reading forward, the states along the
last sequence are the only ones that may still get ways; they are kept open,
and a state is made as soon as the next sequence has left it.
-/

namespace ScalarExpr

namespace Regex

/-- An automaton reads a text from its start or from its end. -/
inductive Direction where
  | forward
  | backward
deriving DecidableEq

/-- A state that may still get ways: those that it has, the last one first, with
    the states they lead to, and the one whose state is open too. -/
structure OpenState where
  settled : List (ByteRange × Nat) := []
  pending : Option ByteRange := none

namespace OpenState

/-- Let the pending way lead to a state. -/
def settle (s : OpenState) (target : Nat) : OpenState :=
  match s.pending with
  | some bytes => ⟨(bytes, target) :: s.settled, none⟩
  | none => s

/-- Make the state, its pending way leading to `target`. -/
def close (s : OpenState) (target : Nat) : Sharing Nat :=
  let ways := (s.settle target).settled
  let words := ways.reverse.flatMap fun (bytes, n) =>
    [bytes.first.toUInt64, bytes.last.toUInt64, UInt64.ofNat n]
  Sharing.state words (Build.table ways.length)

/-- Make the states along a sequence, the last one first. -/
def closeAll (target : Nat) : List OpenState → Sharing Nat
  | [] => pure target
  | s :: rest => do s.close (← closeAll target rest)

/-- Leave the states along the last sequence where the next one does, and open
    those that the next one needs. -/
def follow (target : Nat) : List OpenState → List ByteRange → Sharing (List OpenState)
  | s :: rest, bytes :: more => do
    if s.pending = some bytes then
      return s :: (← follow target rest more)
    else
      let next ← closeAll target rest
      return { s.settle next with pending := some bytes } :: more.map fun b => { pending := some b }
  | [], more => return more.map fun b => { pending := some b }
  | along, [] => return along

end OpenState

namespace CharSet

/-- Whether all members are within ASCII. -/
def isAscii (s : CharSet) : Bool := s.ranges.all (·.last ≤ 0x7F)

/-- The states that read one character forward. Of those with the same ways, up
    to 10000 are remembered. -/
def buildForward (s : CharSet) : Build Unit := do
  let target ← Build.state
  Sharing.run 10000 do
    let along ← (s.ranges.flatMap spellings).foldlM (OpenState.follow target) [{}]
    let _ ← OpenState.closeAll target along

/-- The states that read one character backward: a choice among the sequences.
    Of those with the same way, up to 1000 are remembered. -/
def buildBackward (s : CharSet) : Build Unit := do
  Build.choice 0
  let target ← Build.state
  Sharing.run 1000 do
    (s.ranges.flatMap spellings).forM fun sequence => do
      let _ ← sequence.foldlM (fun next bytes => Sharing.state
        [UInt64.ofNat next, bytes.first.toUInt64, bytes.last.toUInt64] Build.state) target
      Build.option

/-- The states that read one character. Within ASCII that is one byte, and one
    table will do. -/
def build (direction : Direction) (s : CharSet) : Build Unit :=
  if s.isAscii then do
    let _ ← Build.state
    let _ ← Build.table s.ranges.length
  else
    match direction with
    | .forward => s.buildForward
    | .backward => s.buildBackward

end CharSet

end Regex

end ScalarExpr

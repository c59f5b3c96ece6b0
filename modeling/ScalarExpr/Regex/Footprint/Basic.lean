/-!
# The room that an automaton takes

An automaton reads a text byte by byte. Its states are made one after another
and numbered from 0. Each takes room, and some take more: a table of ways, each
for a range of bytes, and a choice among other states to go on in.

## Main definitions

- `Regex.Footprint` — the states made so far, and the room they take
- `Regex.Build` — making states, as long as there is room
- `Regex.Build.state`, `Regex.Build.table` — make a state
- `Regex.Build.option` — let a choice have one more state to go on in
- `Regex.Ending` — how an automaton that is to be continued ends

## Design notes

No state needs to be kept: how much room the next one takes depends at most on
the numbers of states made before.
-/

namespace ScalarExpr

namespace Regex

/-- The states of an automaton and the bytes of memory that they take. -/
structure Footprint where
  states : Nat := 0
  bytes : Nat := 0

/-- The bytes that an automaton may take: ten mebibytes. -/
def Footprint.limit : Nat := 10 * 1024 * 1024

/-- Making states; it fails when the limit is passed. -/
abbrev Build := StateT Footprint Option

namespace Build

/-- Take some bytes. -/
def take (bytes : Nat) : Build Unit := fun f =>
  if f.bytes + bytes ≤ Footprint.limit then some ((), ⟨f.states, f.bytes + bytes⟩) else none

/-- Make a state of 32 bytes, and tell its number. -/
def state : Build Nat := do
  take 32
  modifyGet fun f => (f.states, ⟨f.states + 1, f.bytes⟩)

/-- Make a state with a table of ways, 8 bytes for each. -/
def table (ways : Nat) : Build Nat := do
  take (8 * ways)
  state

/-- Let a choice have one more state to go on in, at 4 bytes. -/
def option : Build Unit := take 4

/-- Make a choice among `options` states. -/
def choice (options : Nat) : Build Unit := do
  take (4 * options)
  let _ ← state

end Build

/-- How an automaton ends: in a state that leads on to one other state, or in a
    choice, which gets an option more when it leads on. -/
inductive Ending where
  | plain
  | choice
deriving DecidableEq

/-- Lead on from the end. -/
def Ending.leadOn : Ending → Build Unit
  | plain => pure ()
  | choice => Build.option

end Regex

end ScalarExpr

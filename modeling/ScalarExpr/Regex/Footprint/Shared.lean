import ScalarExpr.Regex.Footprint.Basic
import Std.Data.HashMap
/-!
# States that are shared

While one set of characters is built, states with the same ways are made only
once, as far as they are remembered. The memory has a fixed number of slots; a
state goes to the slot that its ways are hashed to, and displaces the one that
was there.

## Main definitions

- `Regex.Memory` — the states remembered
- `Regex.Sharing` — making states, with a memory
- `Regex.Sharing.state` — the number of a state with given ways, made if need be
-/

namespace ScalarExpr

namespace Regex

/-- The ways of a state in numbers, so that equal ways have equal words. -/
abbrev Ways := List UInt64

/-- Fold the words into one, each by an exclusive or and a product. -/
def Ways.hash (ways : Ways) : UInt64 :=
  ways.foldl (fun h word => (h ^^^ word) * 0x100000001b3) 0xcbf29ce484222325

/-- States remembered by their ways: in each slot the last one that was put
    there, with its number. -/
structure Memory where
  slots : UInt64
  entries : Std.HashMap UInt64 (Ways × Nat) := ∅

/-- Making states, some of which are remembered. -/
abbrev Sharing := StateT Memory Build

namespace Sharing

/-- The number of the state with some ways. If it is not remembered, it is made
    as `make` says, and remembered. -/
def state (ways : Ways) (make : Build Nat) : Sharing Nat := do
  let memory ← get
  let slot := ways.hash % memory.slots
  match memory.entries[slot]? with
  | some (known, number) => if known = ways then return number
  | none => pure ()
  let number ← make
  modify fun memory => { memory with entries := memory.entries.insert slot (ways, number) }
  return number

/-- Start with an empty memory of some slots. -/
def run {α : Type} (slots : UInt64) (build : Sharing α) : Build α := do
  return (← StateT.run build { slots }).1

end Sharing

end Regex

end ScalarExpr

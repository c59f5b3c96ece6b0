/-!
# Reading by steps

A reader that works with a stack is a step repeated until it is done. Each step
that does not end the reading takes some text, so a reader needs at most one
step more than there are characters.

## Main definitions

- `Regex.Step` — what a step comes to
- `Regex.readBySteps` — repeats a step
-/

namespace ScalarExpr

namespace Regex

/-- A step goes on in a new state, or it is done. -/
inductive Step (σ α : Type) where
  | goOn (state : σ) (rest : List Char)
  | done (result : α) (rest : List Char)

/-- Repeat a step up to `count` times; `none` if it fails or is not done then. -/
def readUpTo {σ α : Type} (step : σ → List Char → Option (Step σ α)) :
    (count : Nat) → σ → List Char → Option (α × List Char)
  | 0, _, _ => none
  | count + 1, state, cs =>
    match step state cs with
    | none => none
    | some (.done result rest) => some (result, rest)
    | some (.goOn state rest) => readUpTo step count state rest

/-- Repeat a step until it is done; `none` if it fails. -/
def readBySteps {σ α : Type} (step : σ → List Char → Option (Step σ α))
    (state : σ) (cs : List Char) : Option (α × List Char) :=
  readUpTo step (cs.length + 1) state cs

end Regex

end ScalarExpr

import ScalarExpr.Error
/-!
# Runs

A run is a computation that may fail and that asks a resolver for variables. It
comes to its result and the list of paths that were asked for, in order, also
when it fails.

## Main definitions

- `Run` — the paths asked for, and the result
- `Run.bind` — one run after another; the second does not start if the first
  fails
-/

namespace ScalarExpr

/-- The paths asked for, in order, and a result or an error. -/
structure Run (α : Type) where
  calls : List String
  result : Except Error α

namespace Run

/-- A run that asks for nothing. -/
def of {α : Type} (result : Except Error α) : Run α := ⟨[], result⟩

/-- A run that asks for one path. -/
def ask {α : Type} (path : String) (answer : Except Error α) : Run α := ⟨[path], answer⟩

/-- One run after another. -/
def bind {α β : Type} (r : Run α) (next : α → Run β) : Run β :=
  match r.result with
  | .ok a =>
    let second := next a
    ⟨r.calls ++ second.calls, second.result⟩
  | .error e => ⟨r.calls, .error e⟩

instance : Monad Run where
  pure a := of (.ok a)
  bind := bind

/-- A run that fails at once. -/
def fail {α : Type} (e : Error) : Run α := of (.error e)

end Run

end ScalarExpr

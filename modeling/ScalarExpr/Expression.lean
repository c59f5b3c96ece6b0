import ScalarExpr.Evaluation.Basic
import ScalarExpr.Regex.Dialect
/-!
# Expressions

An expression is parsed once and can be evaluated many times, with different
values for its variables.

## Main definitions

- `Expression` — a text, its tokens in prefix order, and a limit on nesting
- `Expression.ofText` — parses a text
- `Expression.evaluate` — evaluates with a resolver or without
- `Expression.display` — the tokens, separated by spaces

## Design notes

Expressions are defined for any engine of regular expressions. A program that imports this
module runs with the one that `Regex.dialect` is.
-/

namespace ScalarExpr

variable [Regex.Engine]

/-- A parsed expression. -/
structure Expression where
  source : String
  tokens : List Token
  /-- How many operators may be nested; no limit if there is none. -/
  limit : Option Nat := none

namespace Expression

/-- The expression that a text spells. -/
def ofText (text : String) : Except Error Expression :=
  match parse text with
  | .ok tokens => .ok { source := text, tokens }
  | .error e => .error e

def withLimit (e : Expression) (limit : Option Nat) : Expression := { e with limit }

/-- The value of an expression, its variables resolved or not. -/
def evaluate (e : Expression) (resolver : Option Resolver) : Run Operand :=
  ScalarExpr.evaluate e.tokens { resolver, limit := e.limit }

/-- The tokens in prefix order, separated by spaces. -/
def display (e : Expression) : String := Token.displayAll e.tokens

end Expression

end ScalarExpr

import ScalarExpr.Operand.Basic
import ScalarExpr.Operator
/-!
# Tokens

## Main definitions

- `Token` — a kind and the byte offset at which it starts
- `Token.display`, `Token.displayAll` — the canonical writing of tokens
-/

namespace ScalarExpr

variable [Regex.Engine]

/-- What a token is. -/
inductive TokenKind where
  | literal (value : Operand)
  | operator (op : Operator)
  | leftParen
  | rightParen
  /-- A variable by its path, as it was written. -/
  | variable (path : String)
deriving DecidableEq

/-- A token and the offset, in bytes, at which it starts. -/
structure Token where
  kind : TokenKind
  offset : Nat
deriving DecidableEq

namespace TokenKind

/-- The canonical writing of a token. -/
def display : TokenKind → String
  | literal value => value.display
  | operator op => op.spelling
  | leftParen => "("
  | rightParen => ")"
  | .variable path => path

/-- After an operator or an opening parenthesis an operand has to follow. -/
def expectsOperand : TokenKind → Bool
  | operator _ | leftParen => true
  | _ => false

end TokenKind

namespace Token

def display (t : Token) : String := t.kind.display

/-- Tokens one after another, with single spaces between them. -/
def displayAll (tokens : List Token) : String := " ".intercalate (tokens.map display)

end Token

end ScalarExpr

import ScalarExpr.Text.Quoted
/-!
# Errors

## Main definitions

- `LexFault` — why no token can be read
- `Error` — everything that can go wrong with an expression
- `Error.message` — the wording
- `Error.stage` — the stage at which an error arises
-/

namespace ScalarExpr

/-- Why no token can be read. -/
inductive LexFault where
  | unknownToken
  | unexpectedEnd
  | unexpectedEndOfString
  | invalidCharacter
  | invalidHexadecimal
  | hexadecimalTooLong
  | invalidNumber (digits : String)
  | invalidRegexp
deriving DecidableEq

/-- What can go wrong with an expression. -/
inductive Error where
  /-- No token can be read at `offset`; `text` is what stands there, up to the
      next white space. -/
  | lex (fault : LexFault) (offset : Nat) (text : String)
  | mismatchedParentheses
  /-- An operator misses an operand, or an operand an operator. -/
  | notEnoughArguments
  | unknownOperator (spelling : String)
  /-- A variable was met and nothing resolves variables. -/
  | unresolvedVariable (offset : Nat) (text : String)
  | variableNotFound (path : String)
  /-- The resolver failed, with a message of its own. -/
  | resolver (message : String)
  | tooDeep (limit : Nat)
deriving DecidableEq

/-- The stage at which an error arises: reading tokens, ordering them, or
    evaluating them. -/
inductive Stage where
  | lex
  | parse
  | eval
deriving DecidableEq

/-- The wording of a fault. -/
def LexFault.message : LexFault → String
  | unknownToken => "unknown token"
  | unexpectedEnd => "unexpected end of input"
  | unexpectedEndOfString => "unexpected end of string"
  | invalidCharacter => "invalid character"
  | invalidHexadecimal => "invalid hexadecimal"
  | hexadecimalTooLong => "hexadecimal too long"
  | invalidNumber digits =>
    "invalid number literal: parsing " ++ Text.quoted digits ++ ": invalid float literal"
  | invalidRegexp => "invalid regexp"

namespace Error

def stage : Error → Stage
  | lex .. => .lex
  | mismatchedParentheses => .parse
  | _ => .eval

/-- The wording of an error. -/
def message : Error → String
  | lex fault offset text => fault.message ++ " at " ++ toString offset ++ ": " ++ text
  | mismatchedParentheses => "mismatched parentheses"
  | notEnoughArguments => "not enough arguments"
  | unknownOperator spelling => "unknown operator: " ++ spelling
  | unresolvedVariable offset text => "unknown token at " ++ toString offset ++ ": " ++ text
  | variableNotFound path => "variable " ++ path ++ " not found"
  | resolver message => message
  | tooDeep limit => "expression is nested deeper than " ++ toString limit ++ " levels"

end Error

end ScalarExpr

import ScalarExpr.Token.Lexer
/-!
# Prefix order

Tokens are put in prefix order, each operator before its operands, and the
parentheses left out. The tokens are scanned from the right, with a stack of
operators whose operands are still being placed; read backwards, a closing
parenthesis opens a group and an opening one closes it.

## Main definitions

- `PrefixOrder.place` — places one token
- `toPrefix` — puts tokens in prefix order
- `parse` — reads a text and puts its tokens in prefix order
-/

namespace ScalarExpr

variable [Regex.Engine]

namespace PrefixOrder

/-- What waits on the stack: an operator, or the boundary of a group. -/
inductive Pending where
  | operator (op : Operator) (offset : Nat)
  | group
deriving DecidableEq

/-- The stack, and the tokens placed so far. -/
structure State where
  stack : List Pending := []
  placed : List Token := []

/-- Whether a waiting operator is placed before an incoming one that stands to
    its left: it binds tighter, or as tight where operators group on the right. -/
def precedes (waiting incoming : Operator) : Bool :=
  incoming.precedence < waiting.precedence ||
    (incoming.precedence = waiting.precedence && incoming.associativity = .right)

/-- Place the waiting operators that precede an incoming one. -/
def placePreceding (incoming : Operator) : List Pending → List Token → State
  | .operator op offset :: stack, placed =>
    if precedes op incoming then placePreceding incoming stack (⟨.operator op, offset⟩ :: placed)
    else ⟨.operator op offset :: stack, placed⟩
  | stack, placed => ⟨stack, placed⟩

/-- Place the operators that wait within the innermost group, and end the group;
    `none` if there is no group. -/
def placeGroup? : List Pending → List Token → Option State
  | [], _ => none
  | .group :: stack, placed => some ⟨stack, placed⟩
  | .operator op offset :: stack, placed => placeGroup? stack (⟨.operator op, offset⟩ :: placed)

/-- Place all operators that wait; `none` if a group is open. -/
def placeAll? : List Pending → List Token → Option (List Token)
  | [], placed => some placed
  | .group :: _, _ => none
  | .operator op offset :: stack, placed => placeAll? stack (⟨.operator op, offset⟩ :: placed)

/-- Place one token, all tokens to its right being placed or waiting. -/
def place (t : Token) (s : State) : Option State :=
  match t.kind with
  | .literal _ | .variable _ => some { s with placed := t :: s.placed }
  | .operator op =>
    let s := placePreceding op s.stack s.placed
    some { s with stack := .operator op t.offset :: s.stack }
  | .rightParen => some { s with stack := .group :: s.stack }
  | .leftParen => placeGroup? s.stack s.placed

/-- Place the tokens from the right to the left. -/
def placeTokens? (tokens : List Token) : Option State :=
  tokens.foldr (fun t s => s.bind (place t)) (some {})

end PrefixOrder

/-- The tokens in prefix order, without parentheses. -/
def toPrefix (tokens : List Token) : Except Error (List Token) :=
  match (PrefixOrder.placeTokens? tokens).bind fun s => PrefixOrder.placeAll? s.stack s.placed with
  | some ordered => .ok ordered
  | none => .error .mismatchedParentheses

/-- The tokens of a text in prefix order. White space at the end of the text, in
    any script, is ignored. -/
def parse (text : String) : Except Error (List Token) :=
  match Lexer.tokensFrom true 0 (Text.trimEnd text.toList) with
  | .ok tokens => toPrefix tokens
  | .error e => .error e

end ScalarExpr

import ScalarExpr.Evaluation.Run
import ScalarExpr.Operation.Basic
import ScalarExpr.Token.PrefixOrder
/-!
# Evaluation

Tokens in prefix order are evaluated from the head. An operator takes its
operands one after another from what follows it; the right operand of a logical
operator that is decided is skipped without being evaluated.

## Main definitions

- `Resolver` — the values of variables
- `Evaluator.reduce` — evaluates the expression at the head of the tokens
- `Evaluator.skip` — passes over expressions at the head of the tokens
- `evaluate` — evaluates tokens that form one expression

## Design notes

`reduce` gives back the tokens that are left together with the proof that they
are fewer, so the operands of an operator are evaluated by plain recursion.
-/

namespace ScalarExpr

variable [Regex.Engine]

/-- The values of variables, by their paths as they are written. A resolver is a map of paths
    to values: it answers a path alike each time. -/
abbrev Resolver := String → Except Error Operand

namespace Evaluator

/-- What an evaluation depends on besides the tokens: the resolver, and how many
    operators may be nested. -/
structure Context where
  resolver : Option Resolver := none
  limit : Option Nat := none

/-- The value of an expression, and fewer than `n` tokens behind it. -/
structure Reduced (n : Nat) where
  value : Operand
  rest : List Token
  shorter : rest.length < n

/-- Pass over as many expressions as are pending. -/
def skip : Nat → List Token → Except Error (List Token)
  | 0, tokens => .ok tokens
  | _ + 1, [] => .error .notEnoughArguments
  | pending + 1, t :: tokens =>
    match t.kind with
    | .operator op => skip (pending + op.arity) tokens
    | .literal _ | .variable _ => skip pending tokens
    | .leftParen | .rightParen => .error (.unknownOperator t.display)

theorem length_skip_le {pending : Nat} {tokens rest : List Token}
    (h : skip pending tokens = .ok rest) : rest.length ≤ tokens.length := by
  induction tokens generalizing pending with
  | nil =>
    cases pending with
    | zero =>
      cases h
      exact Nat.le_refl _
    | succ pending => exact nomatch h
  | cons t tokens ih =>
    cases pending with
    | zero =>
      cases h
      exact Nat.le_refl _
    | succ pending =>
      simp only [skip] at h
      split at h
      · exact Nat.le_succ_of_le (ih h)
      · exact Nat.le_succ_of_le (ih h)
      · exact Nat.le_succ_of_le (ih h)
      · exact nomatch h
      · exact nomatch h

/-- The value of a variable. -/
def resolve (context : Context) (offset : Nat) (path : String) : Run Operand :=
  match context.resolver with
  | some resolver => .ask path (resolver path)
  | none => .fail (.unresolvedVariable offset path)

/-- An operator may be evaluated within fewer operators than the limit. -/
def enter (context : Context) (depth : Nat) : Run Unit :=
  match context.limit with
  | some limit => if limit ≤ depth then .fail (.tooDeep limit) else pure ()
  | none => pure ()

/-- Evaluate the expression at the head of the tokens, which stands within
    `depth` operators. -/
def reduce (context : Context) (depth : Nat) (tokens : List Token) :
    Run (Reduced tokens.length) :=
  match tokens with
  | [] => .fail .notEnoughArguments
  | ⟨.literal value, _⟩ :: rest => pure ⟨value, rest, Nat.lt_succ_self _⟩
  | ⟨.variable path, offset⟩ :: rest => do
    let value ← resolve context offset path
    pure ⟨value, rest, Nat.lt_succ_self _⟩
  | ⟨.leftParen, _⟩ :: _ => .fail (.unknownOperator TokenKind.leftParen.display)
  | ⟨.rightParen, _⟩ :: _ => .fail (.unknownOperator TokenKind.rightParen.display)
  | ⟨.operator (.unary op), _⟩ :: rest => do
    enter context depth
    let x ← reduce context (depth + 1) rest
    pure ⟨op.apply x.value, x.rest, Nat.lt_succ_of_lt x.shorter⟩
  | ⟨.operator (.logical op), _⟩ :: rest => do
    enter context depth
    let left ← reduce context (depth + 1) rest
    if op.decides left.value then
      match h : skip 1 left.rest with
      | .ok behind =>
        pure ⟨left.value, behind,
          Nat.lt_succ_of_lt (Nat.lt_of_le_of_lt (length_skip_le h) left.shorter)⟩
      | .error e => .fail e
    else
      have := left.shorter
      let right ← reduce context (depth + 1) left.rest
      pure ⟨right.value, right.rest, Nat.lt_succ_of_lt (Nat.lt_trans right.shorter left.shorter)⟩
  | ⟨.operator op, _⟩ :: rest => do
    enter context depth
    let left ← reduce context (depth + 1) rest
    have := left.shorter
    let right ← reduce context (depth + 1) left.rest
    let value ← Run.of (op.applyBinary left.value right.value)
    pure ⟨value, right.rest, Nat.lt_succ_of_lt (Nat.lt_trans right.shorter left.shorter)⟩
termination_by tokens.length

end Evaluator

/-- The value of tokens in prefix order, which have to form one expression. -/
def evaluate (tokens : List Token) (context : Evaluator.Context) : Run Operand := do
  let reduced ← Evaluator.reduce context 0 tokens
  if reduced.rest.isEmpty then pure reduced.value else .fail .notEnoughArguments

/-- The value of the expression that a text spells. -/
def evaluateText (text : String) (context : Evaluator.Context) : Run Operand :=
  match parse text with
  | .ok tokens => evaluate tokens context
  | .error e => .fail e

end ScalarExpr

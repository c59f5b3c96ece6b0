import ScalarExpr.Proofs.Reduction
/-!
# Offsets and values

The offset of a token is reported where a variable is met without a resolver, and has no
other effect. With a resolver, tokens of the same kinds come to the same value, or fail with
the same error, after the same calls.

## Main definitions

- `Token.atStart` — a token moved to the start

## Main statements

- `Evaluator.reduceHead_map_atStart`: the head of tokens that are moved to the start
- `evaluate_eq_of_kinds`: with a resolver an evaluation depends on the kinds of the tokens
-/

namespace ScalarExpr

theorem Run.of_map {α β : Type} (f : α → β) (result : Except Error α) :
    of (result.map f) = f <$> of result := by
  cases result <;> rfl

variable [Regex.Engine]

/-- The token with nothing before it. -/
def Token.atStart (t : Token) : Token := { t with offset := 0 }

theorem Token.map_atStart_eq (tokens : List Token) :
    tokens.map atStart = (tokens.map kind).map (⟨·, 0⟩) := by
  rw [List.map_map]
  rfl

namespace Evaluator

variable {context : Context} {resolver : Resolver}

theorem skip_map_atStart (pending : Nat) (tokens : List Token) :
    skip pending (tokens.map Token.atStart) =
      (skip pending tokens).map (List.map Token.atStart) := by
  induction tokens generalizing pending with
  | nil => cases pending <;> rfl
  | cons t tokens ih =>
    obtain ⟨kind, offset⟩ := t
    cases pending with
    | zero => rfl
    | succ pending =>
      cases kind with
      | literal value => exact ih pending
      | «variable» path => exact ih pending
      | operator op => exact ih (pending + op.arity)
      | leftParen | rightParen => rfl

theorem resolve_of_resolver (h : context.resolver = some resolver) (offset : Nat) (path : String) :
    resolve context offset path = .ask path (resolver path) := by
  rw [resolve, h]

/-- With a resolver, the head of the tokens comes to the same wherever they stand. -/
theorem reduceHead_map_atStart (h : context.resolver = some resolver) (depth : Nat)
    (tokens : List Token) :
    reduceHead context depth (tokens.map Token.atStart) =
      Prod.map id (List.map Token.atStart) <$> reduceHead context depth tokens := by
  induction tokens using headInduction generalizing depth with
  | nil =>
    rw [List.map_nil, reduceHead_nil]
    rfl
  | literal value offset rest =>
    rw [List.map_cons, Token.atStart, reduceHead_literal, reduceHead_literal]
    rfl
  | «variable» path offset rest =>
    rw [List.map_cons, Token.atStart, reduceHead_variable, reduceHead_variable,
      resolve_of_resolver h, resolve_of_resolver h, map_bind]
    rfl
  | parenthesis kind offset rest hkind =>
    rw [List.map_cons, Token.atStart, reduceHead_parenthesis hkind, reduceHead_parenthesis hkind]
    rfl
  | unary op offset rest ih =>
    rw [List.map_cons, Token.atStart, reduceHead_unary, reduceHead_unary, ih (depth + 1)]
    simp only [map_bind, bind_map_left]
    rfl
  | binary op offset rest ih =>
    rw [List.map_cons, Token.atStart, reduceHead_operands, reduceHead_operands,
      ih rest (Nat.le_refl _) (depth + 1)]
    simp only [map_bind, bind_map_left]
    refine congrArg _ (funext fun _ => Run.bind_congr_of_ok fun left hleft => ?_)
    have hbehind := ih left.2 (length_rest_le hleft) (depth + 1)
    simp only [reduceRight, Prod.map_fst, Prod.map_snd, id_eq]
    split
    · rw [skip_map_atStart, Run.of_map, bind_map_left, map_bind]
      rfl
    · simp only [hbehind, bind_map_left, map_bind]
      rfl

end Evaluator

open Evaluator

theorem evaluate_map_atStart {context : Context} {resolver : Resolver}
    (h : context.resolver = some resolver) (tokens : List Token) :
    evaluate (tokens.map Token.atStart) context = evaluate tokens context := by
  rw [evaluate_eq_reduceHead, evaluate_eq_reduceHead, reduceHead_map_atStart h, bind_map_left]
  simp only [Prod.map_fst, Prod.map_snd, id_eq, List.isEmpty_map]

/-- With a resolver, an evaluation depends on the tokens by no more than their kinds. -/
theorem evaluate_eq_of_kinds {context : Context} {resolver : Resolver}
    {tokens tokens' : List Token} (h : context.resolver = some resolver)
    (hkinds : tokens.map Token.kind = tokens'.map Token.kind) :
    evaluate tokens context = evaluate tokens' context := by
  rw [← evaluate_map_atStart h tokens, ← evaluate_map_atStart h tokens', Token.map_atStart_eq,
    Token.map_atStart_eq, hkinds]

end ScalarExpr

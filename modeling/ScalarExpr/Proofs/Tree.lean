import ScalarExpr.Token.Basic
/-!
# Expression trees

An expression is a tree: literals and variables at its leaves, operators with
one or two operands at its inner nodes. Each node keeps the offset of its token.

## Main definitions

- `BinaryOperator` — an operator that takes two operands
- `Tree` — the trees
- `Tree.preorder` — the tokens of a tree, each operator before its operands
- `Tree.root?` — the operator at the root, if the tree is not a leaf

## Main statements

- `Tree.preorder_append_inj`: tokens begin with the preorder of at most one tree
-/

namespace ScalarExpr

/-- An operator that takes two operands. -/
abbrev BinaryOperator := { op : Operator // op.arity = 2 }

namespace Operator

theorem arity_unary (op : UnaryOperator) : (unary op).arity = 1 := rfl

end Operator

theorem BinaryOperator.ne_unary (op : BinaryOperator) (u : UnaryOperator) : op.1 ≠ .unary u := by
  intro h
  have harity := op.2
  rw [h, Operator.arity_unary] at harity
  exact absurd harity (by decide)

theorem Operator.unary_or_binary (op : Operator) :
    (∃ u, op = .unary u) ∨ ∃ binary : BinaryOperator, op = binary.1 := by
  cases op with
  | unary u => exact .inl ⟨u, rfl⟩
  | logical | bitwise | comparison | arithmetic => exact .inr ⟨⟨_, rfl⟩, rfl⟩

variable [Regex.Engine]

/-- An expression, with the offset of each of its tokens. -/
inductive Tree where
  | literal (value : Operand) (offset : Nat)
  | variable (path : String) (offset : Nat)
  | unary (op : UnaryOperator) (offset : Nat) (operand : Tree)
  | binary (op : BinaryOperator) (offset : Nat) (left right : Tree)

namespace Tree

/-- The tokens of a tree in prefix order: each operator, then its operands from
    the left to the right. -/
def preorder : Tree → List Token
  | literal value offset => [⟨.literal value, offset⟩]
  | .variable path offset => [⟨.variable path, offset⟩]
  | unary op offset operand => ⟨.operator (.unary op), offset⟩ :: operand.preorder
  | binary op offset left right =>
    ⟨.operator op.1, offset⟩ :: (left.preorder ++ right.preorder)

/-- The operator at the root; a leaf has none. -/
def root? : Tree → Option Operator
  | literal _ _ | .variable _ _ => none
  | unary op _ _ => some (.unary op)
  | binary op _ _ _ => some op.1

/-- Tokens begin with the preorder of at most one tree: no preorder continues
    another one. -/
theorem preorder_append_inj {t u : Tree} {a b : List Token}
    (h : t.preorder ++ a = u.preorder ++ b) : t = u ∧ a = b := by
  induction t generalizing u a b with
  | literal value offset =>
    cases u with
    | literal value' offset' =>
      simp only [preorder, List.cons_append, List.nil_append, List.cons.injEq, Token.mk.injEq,
        TokenKind.literal.injEq] at h
      obtain ⟨⟨rfl, rfl⟩, rfl⟩ := h
      exact ⟨rfl, rfl⟩
    | «variable» | unary | binary => simp [preorder] at h
  | «variable» path offset =>
    cases u with
    | «variable» path' offset' =>
      simp only [preorder, List.cons_append, List.nil_append, List.cons.injEq, Token.mk.injEq,
        TokenKind.variable.injEq] at h
      obtain ⟨⟨rfl, rfl⟩, rfl⟩ := h
      exact ⟨rfl, rfl⟩
    | literal | unary | binary => simp [preorder] at h
  | unary op offset x ih =>
    cases u with
    | unary op' offset' x' =>
      simp only [preorder, List.cons_append, List.cons.injEq, Token.mk.injEq,
        TokenKind.operator.injEq, Operator.unary.injEq] at h
      obtain ⟨⟨rfl, rfl⟩, hx⟩ := h
      obtain ⟨rfl, rfl⟩ := ih hx
      exact ⟨rfl, rfl⟩
    | binary op' =>
      simp only [preorder, List.cons_append, List.cons.injEq, Token.mk.injEq,
        TokenKind.operator.injEq] at h
      exact absurd h.1.1.symm (op'.ne_unary op)
    | literal | «variable» => simp [preorder] at h
  | binary op offset l r ihl ihr =>
    cases u with
    | binary op' offset' l' r' =>
      simp only [preorder, List.cons_append, List.append_assoc, List.cons.injEq, Token.mk.injEq,
        TokenKind.operator.injEq] at h
      obtain ⟨⟨hop, rfl⟩, hoperands⟩ := h
      obtain ⟨rfl, hright⟩ := ihl hoperands
      obtain ⟨rfl, rfl⟩ := ihr hright
      rw [Subtype.ext hop]
      exact ⟨rfl, rfl⟩
    | unary op' =>
      simp only [preorder, List.cons_append, List.cons.injEq, Token.mk.injEq,
        TokenKind.operator.injEq] at h
      exact absurd h.1.1 (op.ne_unary op')
    | literal | «variable» => simp [preorder] at h

theorem preorder_injective {t u : Tree} (h : t.preorder = u.preorder) : t = u :=
  (preorder_append_inj (a := []) (b := []) (by rw [h])).1

end Tree

end ScalarExpr

import ScalarExpr.Proofs.Evaluation
/-!
# Evaluation, operator by operator

Logical operators and the other binary ones are evaluated alike: the left operand
first, and then the right one, unless the left one decides. What holds of every
evaluation is proved by one induction over the tokens, in which the operands of an
operator stand on shorter lists.

## Main definitions

- `Operator.decidedBy` — the left operand is the result
- `Operator.combine` — what an operator makes of both operands
- `Evaluator.reduceRight` — evaluation behind the left operand
- `Evaluator.Cause` — what an evaluation may fail with

## Main statements

- `Evaluator.reduceHead_operands`: how a binary operator is evaluated
- `Evaluator.headInduction`: induction over the tokens that are evaluated
- `Evaluator.reduceHead_eq_of_limit_eq_none`: without a limit, how deep an expression
  stands has no effect
- `cause_of_evaluate`: what an evaluation fails with
-/

namespace ScalarExpr

variable [Regex.Engine]

namespace Operator

/-- The left operand is the result of the operator, and the right one is passed
    over. -/
def decidedBy (op : Operator) (left : Operand) : Bool :=
  match op with
  | logical op => op.decides left
  | _ => false

/-- What the operator makes of two operands, if the left one does not decide. -/
def combine (op : Operator) (left right : Operand) : Except Error Operand :=
  match op with
  | logical _ => .ok right
  | op => op.applyBinary left right

theorem decidedBy_of_ne_logical {op : Operator} (h : ∀ op', op ≠ logical op') (left : Operand) :
    op.decidedBy left = false := by
  cases op with
  | logical op => exact absurd rfl (h op)
  | bitwise | comparison | arithmetic | unary => rfl

theorem combine_of_ne_logical {op : Operator} (h : ∀ op', op ≠ logical op')
    (left right : Operand) : op.combine left right = op.applyBinary left right := by
  cases op with
  | logical op => exact absurd rfl (h op)
  | bitwise | comparison | arithmetic | unary => rfl

end Operator

/-- A binary operator makes a value of any two operands. -/
theorem BinaryOperator.exists_combine_eq (op : BinaryOperator) (left right : Operand) :
    ∃ value, op.1.combine left right = .ok value := by
  obtain ⟨op, harity⟩ := op
  cases op with
  | unary op => cases harity
  | logical | bitwise | comparison | arithmetic => exact ⟨_, rfl⟩

namespace Evaluator

variable {context : Context} {depth : Nat}

/-- To enter an operator nothing is asked for. -/
theorem enter_eq_of (context : Context) (depth : Nat) :
    enter context depth = Run.of (enter context depth).result := by
  unfold enter
  split
  · split <;> rfl
  · rfl

/-- Evaluation behind the left operand of an operator: the right operand is passed
    over or evaluated. -/
def reduceRight (context : Context) (depth : Nat) (op : BinaryOperator)
    (left : Operand × List Token) : Run (Operand × List Token) :=
  if op.1.decidedBy left.1 then do
    let behind ← Run.of (skip 1 left.2)
    pure (left.1, behind)
  else do
    let right ← reduceHead context depth left.2
    let value ← Run.of (op.1.combine left.1 right.1)
    pure (value, right.2)

theorem reduceHead_operands (op : BinaryOperator) (offset : Nat) (rest : List Token) :
    reduceHead context depth (⟨.operator op.1, offset⟩ :: rest) = (do
      enter context depth
      let left ← reduceHead context (depth + 1) rest
      reduceRight context (depth + 1) op left) := by
  by_cases h : ∃ logical, op.1 = .logical logical
  · obtain ⟨logical, hop⟩ := h
    rw [hop, reduceHead_logical]
    refine congrArg _ (funext fun _ => congrArg _ (funext fun left => ?_))
    simp only [reduceRight, hop, Operator.decidedBy, Operator.combine, Run.of_ok, pure_bind]
    exact congrArg _ (bind_pure _).symm
  · have hop : ∀ logical, op.1 ≠ .logical logical := fun logical hop => h ⟨logical, hop⟩
    rw [reduceHead_binary hop]
    simp only [reduceRight, Operator.decidedBy_of_ne_logical hop, Operator.combine_of_ne_logical hop,
      Bool.false_eq_true, if_false]

/-- What stands behind an expression is shorter. -/
theorem length_rest_le {tokens : List Token} {head : Operand × List Token}
    (h : (reduceHead context depth tokens).result = .ok head) :
    head.2.length ≤ tokens.length := by
  obtain ⟨t, rfl⟩ := exists_preorder_of_reduceHead h
  rw [List.length_append]
  omega

/-- Induction over the tokens that are evaluated: the operand of a unary operator
    stands right behind it, and the operands of a binary one anywhere behind it. -/
theorem headInduction {motive : List Token → Prop} (nil : motive [])
    (literal : ∀ value offset rest, motive (⟨.literal value, offset⟩ :: rest))
    («variable» : ∀ path offset rest, motive (⟨.variable path, offset⟩ :: rest))
    (parenthesis : ∀ kind offset rest, kind = .leftParen ∨ kind = .rightParen →
      motive (⟨kind, offset⟩ :: rest))
    (unary : ∀ (op : UnaryOperator) offset rest, motive rest →
      motive (⟨.operator (.unary op), offset⟩ :: rest))
    (binary : ∀ (op : BinaryOperator) offset rest,
      (∀ behind : List Token, behind.length ≤ rest.length → motive behind) →
      motive (⟨.operator op.1, offset⟩ :: rest))
    (tokens : List Token) : motive tokens := by
  match tokens with
  | [] => exact nil
  | ⟨.literal value, offset⟩ :: rest => exact literal value offset rest
  | ⟨.variable path, offset⟩ :: rest => exact «variable» path offset rest
  | ⟨.leftParen, offset⟩ :: rest => exact parenthesis _ offset rest (.inl rfl)
  | ⟨.rightParen, offset⟩ :: rest => exact parenthesis _ offset rest (.inr rfl)
  | ⟨.operator op, offset⟩ :: rest =>
    rcases op.unary_or_binary with ⟨op, rfl⟩ | ⟨op, rfl⟩
    · exact unary op offset rest
        (headInduction nil literal «variable» parenthesis unary binary rest)
    · exact binary op offset rest fun behind _ =>
        headInduction nil literal «variable» parenthesis unary binary behind
termination_by tokens.length
decreasing_by all_goals simp only [List.length_cons]; omega

/-- Without a limit it has no effect how deep an expression stands. -/
theorem reduceHead_eq_of_limit_eq_none (hlimit : context.limit = none) (depth : Nat)
    (tokens : List Token) : reduceHead context depth tokens = reduceHead context 0 tokens := by
  have henter : ∀ depth, enter context depth = pure () := fun depth => by
    rw [enter, hlimit]
  induction tokens using headInduction generalizing depth with
  | nil => rw [reduceHead_nil, reduceHead_nil]
  | literal => rw [reduceHead_literal, reduceHead_literal]
  | «variable» => rw [reduceHead_variable, reduceHead_variable]
  | parenthesis _ _ _ hkind => rw [reduceHead_parenthesis hkind, reduceHead_parenthesis hkind]
  | unary op offset rest ih =>
    rw [reduceHead_unary, reduceHead_unary, henter, henter, ih (depth + 1), ih (0 + 1)]
  | binary op offset rest ih =>
    rw [reduceHead_operands, reduceHead_operands, henter, henter,
      ih rest (Nat.le_refl _) (depth + 1), ih rest (Nat.le_refl _) (0 + 1)]
    refine congrArg _ (funext fun _ => Run.bind_congr_of_ok fun left hleft => ?_)
    have hbehind := ih left.2 (length_rest_le hleft)
    rw [reduceRight, reduceRight, hbehind (depth + 1), hbehind (0 + 1)]

/-- What an evaluation may fail with. The spelling of an unknown operator is that of
    a parenthesis. -/
inductive Cause (context : Context) : Error → Prop where
  | notEnoughArguments : Cause context .notEnoughArguments
  | parenthesis {kind : TokenKind} (hkind : kind = .leftParen ∨ kind = .rightParen) :
    Cause context (.unknownOperator kind.display)
  | unresolvedVariable (offset : Nat) (path : String) (hresolver : context.resolver = none) :
    Cause context (.unresolvedVariable offset path)
  | resolver {resolver : Resolver} {path : String} {e : Error}
    (hresolver : context.resolver = some resolver) (h : resolver path = .error e) :
    Cause context e
  | tooDeep {limit : Nat} (hlimit : context.limit = some limit) : Cause context (.tooDeep limit)

variable {e : Error}

theorem cause_of_enter (h : (enter context depth).result = .error e) : Cause context e := by
  unfold enter at h
  split at h
  · rename_i limit hlimit
    split at h
    · cases h
      exact .tooDeep hlimit
    · cases h
  · cases h

theorem cause_of_resolve {offset : Nat} {path : String}
    (h : (resolve context offset path).result = .error e) : Cause context e := by
  unfold resolve at h
  split at h
  · exact .resolver ‹_› h
  · cases h
    exact .unresolvedVariable offset path ‹_›

theorem cause_of_skip {pending : Nat} {tokens : List Token} (h : skip pending tokens = .error e) :
    Cause context e := by
  induction tokens generalizing pending with
  | nil =>
    cases pending with
    | zero => cases h
    | succ pending =>
      cases h
      exact .notEnoughArguments
  | cons t tokens ih =>
    obtain ⟨kind, offset⟩ := t
    cases pending with
    | zero => cases h
    | succ pending =>
      cases kind with
      | literal | «variable» | operator => exact ih h
      | leftParen =>
        cases h
        exact .parenthesis (.inl rfl)
      | rightParen =>
        cases h
        exact .parenthesis (.inr rfl)

theorem cause_of_reduceRight {op : BinaryOperator} {left : Operand × List Token}
    (hright : ∀ e, (reduceHead context depth left.2).result = .error e → Cause context e)
    (h : (reduceRight context depth op left).result = .error e) : Cause context e := by
  unfold reduceRight at h
  split at h
  · rcases Run.result_bind_eq_error_iff.1 h with hskip | ⟨behind, _, hpure⟩
    · exact cause_of_skip hskip
    · cases hpure
  · rcases Run.result_bind_eq_error_iff.1 h with hoperand | ⟨right, _, h⟩
    · exact hright e hoperand
    · obtain ⟨value, hvalue⟩ := op.exists_combine_eq left.1 right.1
      rw [hvalue] at h
      cases h

theorem cause_of_reduceHead {tokens : List Token}
    (h : (reduceHead context depth tokens).result = .error e) : Cause context e := by
  induction tokens using headInduction generalizing depth e with
  | nil =>
    rw [reduceHead_nil] at h
    cases h
    exact .notEnoughArguments
  | literal =>
    rw [reduceHead_literal] at h
    cases h
  | «variable» path offset rest =>
    rw [reduceHead_variable] at h
    rcases Run.result_bind_eq_error_iff.1 h with hresolve | ⟨value, _, hpure⟩
    · exact cause_of_resolve hresolve
    · cases hpure
  | parenthesis kind offset rest hkind =>
    rw [reduceHead_parenthesis hkind] at h
    cases h
    exact .parenthesis hkind
  | unary op offset rest ih =>
    rw [reduceHead_unary] at h
    rcases Run.result_bind_eq_error_iff.1 h with henter | ⟨_, _, h⟩
    · exact cause_of_enter henter
    · rcases Run.result_bind_eq_error_iff.1 h with hoperand | ⟨x, _, hpure⟩
      · exact ih hoperand
      · cases hpure
  | binary op offset rest ih =>
    rw [reduceHead_operands] at h
    rcases Run.result_bind_eq_error_iff.1 h with henter | ⟨_, _, h⟩
    · exact cause_of_enter henter
    · rcases Run.result_bind_eq_error_iff.1 h with hoperand | ⟨left, hleft, h⟩
      · exact ih rest (Nat.le_refl _) hoperand
      · exact cause_of_reduceRight (fun _ => ih left.2 (length_rest_le hleft)) h

end Evaluator

theorem cause_of_evaluate {tokens : List Token} {context : Evaluator.Context} {e : Error}
    (h : (evaluate tokens context).result = .error e) : Evaluator.Cause context e := by
  rw [evaluate_eq_reduceHead] at h
  rcases Run.result_bind_eq_error_iff.1 h with hhead | ⟨head, _, hrest⟩
  · exact Evaluator.cause_of_reduceHead hhead
  · split at hrest
    · cases hrest
    · cases hrest
      exact .notEnoughArguments

/-- Only the preorder of a tree comes to a value. -/
theorem exists_preorder_of_evaluate {tokens : List Token} {context : Evaluator.Context}
    {value : Operand} (h : (evaluate tokens context).result = .ok value) :
    ∃ t : Tree, tokens = t.preorder := by
  rw [evaluate_eq_reduceHead] at h
  obtain ⟨head, hhead, hrest⟩ := Run.result_bind_eq_ok_iff.1 h
  obtain ⟨t, htokens⟩ := Evaluator.exists_preorder_of_reduceHead hhead
  split at hrest
  · rename_i hempty
    rw [List.isEmpty_iff.1 hempty, List.append_nil] at htokens
    exact ⟨t, htokens⟩
  · cases hrest

end ScalarExpr

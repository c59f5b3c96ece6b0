import ScalarExpr.Evaluation.Basic
import ScalarExpr.Proofs.Runs
import ScalarExpr.Proofs.Tree
/-!
# Tokens in prefix order evaluate as trees

The value of a tree is computed from the values of its subtrees. Evaluation never
builds a tree: it goes along the tokens. Without a limit on nesting it comes to
the value of the tree whose preorder the tokens are, asks for the same variables
in the same order, and comes to no value if there is no such tree.

## Main definitions

- `LogicalOperator.decisive` — the truth value that decides a logical operator
- `Tree.value` — the value of a tree
- `Evaluator.reduceHead` — the value at the head of tokens and what follows it

## Main statements

- `LogicalOperator.decides_eq_true_iff`: which left operands decide
- `Evaluator.skip_preorder`, `Evaluator.reduceHead_preorder`: a tree at the head
  of the tokens is passed over, and evaluated, as one
- `Evaluator.exists_preorder_of_skip`, `Evaluator.exists_preorder_of_reduceHead`:
  what is passed over, or has a value, is a tree
- `Evaluator.skip_one_eq_ok_iff`: exactly a tree is passed over
- `evaluate_eq_value`: evaluation is the evaluation of trees
-/

namespace ScalarExpr

/-- The truth value of a left operand at which the right one does not matter. -/
def LogicalOperator.decisive : LogicalOperator → Bool
  | and => false
  | or => true

variable [Regex.Engine]

/-- A left operand decides `&&` exactly if it is false as a truth value, and `||` exactly if it
    is true. -/
theorem LogicalOperator.decides_eq_true_iff (op : LogicalOperator) (left : Operand) :
    op.decides left = true ↔ left.toBoolean = op.decisive := by
  cases op <;> simp [decides, decisive]

/-- The value of a tree: the values of its operands from the left to the right,
    and what the operator makes of them. If the left operand of a logical operator
    has the truth value that decides, it is the value, and the right one has no part
    in it; else the right one is. -/
def Tree.value (resolver : Option Resolver) : Tree → Run Operand
  | .literal value _ => pure value
  | .variable path offset =>
    match resolver with
    | some resolver => .ask path (resolver path)
    | none => .fail (.unresolvedVariable offset path)
  | .unary op _ operand => do
    let x ← operand.value resolver
    .of ((Operator.unary op).applyUnary x)
  | .binary op _ left right => do
    let l ← left.value resolver
    match op.1 with
    | .logical op => if l.toBoolean = op.decisive then pure l else right.value resolver
    | op => do
      let r ← right.value resolver
      .of (op.applyBinary l r)

namespace Tree

variable (resolver : Option Resolver)

theorem value_unary (op : UnaryOperator) (offset : Nat) (operand : Tree) :
    (unary op offset operand).value resolver = (do
      let x ← operand.value resolver
      pure (op.apply x)) := rfl

theorem value_logical {op : BinaryOperator} {logical : LogicalOperator}
    (h : op.1 = .logical logical) (offset : Nat) (left right : Tree) :
    (binary op offset left right).value resolver = (do
      let l ← left.value resolver
      if logical.decides l then pure l else right.value resolver) := by
  simp only [value, h, logical.decides_eq_true_iff]

theorem value_binary {op : BinaryOperator} (h : ∀ logical, op.1 ≠ .logical logical)
    (offset : Nat) (left right : Tree) :
    (binary op offset left right).value resolver = (do
      let l ← left.value resolver
      let r ← right.value resolver
      .of (op.1.applyBinary l r)) := by
  obtain ⟨op, harity⟩ := op
  cases op with
  | logical logical => exact absurd rfl (h logical)
  | bitwise | comparison | arithmetic | unary => rfl

/-- An operator that evaluates both operands is applied to their values. -/
theorem result_value_binary {resolver : Option Resolver} (op : BinaryOperator) {x y : Tree}
    {left right : Operand} (hop : ∀ logical, op.1 ≠ .logical logical)
    (hx : (x.value resolver).result = .ok left) (hy : (y.value resolver).result = .ok right)
    (offset : Nat) :
    ((binary op offset x y).value resolver).result = op.1.applyBinary left right := by
  rw [value_binary resolver hop, Run.bind_of_ok hx]
  dsimp only
  rw [Run.bind_of_ok hy]
  rfl

end Tree

namespace Evaluator

variable {context : Context} {depth : Nat}

/-- The value of the expression at the head of the tokens, and the tokens behind
    it. -/
def reduceHead (context : Context) (depth : Nat) (tokens : List Token) :
    Run (Operand × List Token) := do
  let reduced ← reduce context depth tokens
  pure (reduced.value, reduced.rest)

theorem reduceHead_nil : reduceHead context depth [] = .fail .notEnoughArguments := by
  rw [reduceHead, reduce, Run.fail_bind]

theorem reduceHead_literal (value : Operand) (offset : Nat) (rest : List Token) :
    reduceHead context depth (⟨.literal value, offset⟩ :: rest) = pure (value, rest) := by
  rw [reduceHead, reduce, pure_bind]

theorem reduceHead_variable (path : String) (offset : Nat) (rest : List Token) :
    reduceHead context depth (⟨.variable path, offset⟩ :: rest) = (do
      let value ← resolve context offset path
      pure (value, rest)) := by
  simp only [reduceHead, reduce, bind_assoc, pure_bind]

theorem reduceHead_parenthesis {kind : TokenKind} (h : kind = .leftParen ∨ kind = .rightParen)
    (offset : Nat) (rest : List Token) :
    reduceHead context depth (⟨kind, offset⟩ :: rest) =
      .fail (.unknownOperator kind.display) := by
  rcases h with rfl | rfl <;> rw [reduceHead, reduce, Run.fail_bind]

theorem reduceHead_unary (op : UnaryOperator) (offset : Nat) (rest : List Token) :
    reduceHead context depth (⟨.operator (.unary op), offset⟩ :: rest) = (do
      enter context depth
      let x ← reduceHead context (depth + 1) rest
      pure (op.apply x.1, x.2)) := by
  simp only [reduceHead, reduce, bind_assoc, pure_bind]

theorem reduceHead_logical (op : LogicalOperator) (offset : Nat) (rest : List Token) :
    reduceHead context depth (⟨.operator (.logical op), offset⟩ :: rest) = (do
      enter context depth
      let left ← reduceHead context (depth + 1) rest
      if op.decides left.1 then do
        let behind ← Run.of (skip 1 left.2)
        pure (left.1, behind)
      else
        reduceHead context (depth + 1) left.2) := by
  simp only [reduceHead, reduce, bind_assoc, pure_bind]
  refine congrArg _ (funext fun _ => congrArg _ (funext fun left => ?_))
  split
  · split
    · rename_i behind h
      simp only [h, Run.of_ok, pure_bind]
    · rename_i e h
      simp only [h, Run.of_error, Run.fail_bind]
  · simp only [bind_assoc, pure_bind]

theorem reduceHead_binary {op : BinaryOperator} (h : ∀ logical, op.1 ≠ .logical logical)
    (offset : Nat) (rest : List Token) :
    reduceHead context depth (⟨.operator op.1, offset⟩ :: rest) = (do
      enter context depth
      let left ← reduceHead context (depth + 1) rest
      let right ← reduceHead context (depth + 1) left.2
      let value ← Run.of (op.1.applyBinary left.1 right.1)
      pure (value, right.2)) := by
  obtain ⟨op, harity⟩ := op
  cases op with
  | logical logical => exact absurd rfl (h logical)
  | unary op => cases harity
  | bitwise | comparison | arithmetic => simp only [reduceHead, reduce, bind_assoc, pure_bind]

-- ════════════════════════════════════════════════════════════════════════
-- A tree at the head of the tokens
-- ════════════════════════════════════════════════════════════════════════

/-- A tree counts as one pending expression. -/
theorem skip_preorder (t : Tree) (pending : Nat) (rest : List Token) :
    skip (pending + 1) (t.preorder ++ rest) = skip pending rest := by
  induction t generalizing pending rest with
  | literal | «variable» => rfl
  | unary op offset x ih => exact ih pending rest
  | binary op offset l r ihl ihr =>
    simp only [Tree.preorder, List.cons_append, List.append_assoc, skip, op.2]
    rw [ihl (pending + 1), ihr pending]

/-- A tree at the head of the tokens is evaluated to its value, and the tokens
    behind it are left. -/
theorem reduceHead_preorder (hlimit : context.limit = none) (t : Tree) (depth : Nat)
    (rest : List Token) :
    reduceHead context depth (t.preorder ++ rest) =
      t.value context.resolver >>= fun value => pure (value, rest) := by
  have henter : ∀ depth, enter context depth = pure () := fun depth => by
    rw [enter, hlimit]
  induction t generalizing depth rest with
  | literal value offset => exact reduceHead_literal value offset rest
  | «variable» path offset =>
    rw [Tree.preorder, List.singleton_append, reduceHead_variable]
    rfl
  | unary op offset x ih =>
    simp only [Tree.preorder, List.cons_append, reduceHead_unary, henter, ih, Tree.value_unary,
      bind_assoc, pure_bind]
  | binary op offset l r ihl ihr =>
    rw [Tree.preorder, List.cons_append, List.append_assoc]
    by_cases h : ∃ logical, op.1 = .logical logical
    · obtain ⟨logical, hop⟩ := h
      rw [hop, reduceHead_logical, Tree.value_logical _ hop]
      simp only [henter, ihl, ihr, skip_preorder r 0, bind_assoc, pure_bind]
      refine congrArg _ (funext fun left => ?_)
      split
      · simp only [skip, Run.of_ok, pure_bind]
      · rfl
    · have hop : ∀ logical, op.1 ≠ .logical logical := fun logical hop => h ⟨logical, hop⟩
      rw [reduceHead_binary hop, Tree.value_binary _ hop]
      simp only [henter, ihl, ihr, bind_assoc, pure_bind]

-- ════════════════════════════════════════════════════════════════════════
-- Only trees are passed over and evaluated
-- ════════════════════════════════════════════════════════════════════════

/-- What is passed over first is a tree. -/
theorem exists_preorder_of_skip {tokens rest : List Token} {pending : Nat}
    (h : skip (pending + 1) tokens = .ok rest) :
    ∃ (t : Tree) (behind : List Token),
      tokens = t.preorder ++ behind ∧ skip pending behind = .ok rest := by
  match tokens with
  | [] => cases h
  | ⟨.literal value, offset⟩ :: tokens => exact ⟨.literal value offset, tokens, rfl, h⟩
  | ⟨.variable path, offset⟩ :: tokens => exact ⟨.variable path offset, tokens, rfl, h⟩
  | ⟨.leftParen, offset⟩ :: tokens => cases h
  | ⟨.rightParen, offset⟩ :: tokens => cases h
  | ⟨.operator op, offset⟩ :: tokens =>
    rcases op.unary_or_binary with ⟨op, rfl⟩ | ⟨op, rfl⟩
    · have h : skip (pending + 1) tokens = .ok rest := h
      obtain ⟨x, behind, rfl, hbehind⟩ := exists_preorder_of_skip h
      exact ⟨.unary op offset x, behind, rfl, hbehind⟩
    · have h : skip (pending + 1 + 1) tokens = .ok rest := by
        simpa only [skip, op.2] using h
      obtain ⟨l, middle, htokens, hmiddle⟩ := exists_preorder_of_skip h
      have hlength : middle.length ≤ tokens.length := by simp [htokens]
      obtain ⟨r, behind, rfl, hbehind⟩ := exists_preorder_of_skip hmiddle
      exact ⟨.binary op offset l r, behind, by simp [htokens, Tree.preorder], hbehind⟩
termination_by tokens.length
decreasing_by all_goals simp only [List.length_cons]; omega

/-- One tree is passed over, and nothing else is. -/
theorem skip_one_eq_ok_iff {tokens rest : List Token} :
    skip 1 tokens = .ok rest ↔ ∃ t : Tree, tokens = t.preorder ++ rest := by
  constructor
  · intro h
    obtain ⟨t, behind, htokens, hbehind⟩ := exists_preorder_of_skip h
    rw [skip, Except.ok.injEq] at hbehind
    exact ⟨t, by rw [htokens, hbehind]⟩
  · rintro ⟨t, rfl⟩
    rw [skip_preorder t 0, skip]

/-- What a binary operator at the head has a value by: its left operand has one,
    and the right one has too or is passed over. -/
theorem exists_operands_of_reduceHead {op : BinaryOperator} {offset : Nat} {tokens : List Token}
    {head : Operand × List Token}
    (h : (reduceHead context depth (⟨.operator op.1, offset⟩ :: tokens)).result = .ok head) :
    ∃ left, (reduceHead context (depth + 1) tokens).result = .ok left ∧
      ((∃ value, (reduceHead context (depth + 1) left.2).result = .ok (value, head.2)) ∨
        skip 1 left.2 = .ok head.2) := by
  by_cases hop : ∃ logical, op.1 = .logical logical
  · obtain ⟨logical, hop⟩ := hop
    rw [hop, reduceHead_logical] at h
    obtain ⟨_, _, h⟩ := Run.result_bind_eq_ok_iff.1 h
    obtain ⟨left, hleft, h⟩ := Run.result_bind_eq_ok_iff.1 h
    refine ⟨left, hleft, ?_⟩
    split at h
    · obtain ⟨behind, hbehind, hpure⟩ := Run.result_bind_eq_ok_iff.1 h
      cases hpure
      exact .inr hbehind
    · exact .inl ⟨head.1, h⟩
  · rw [reduceHead_binary fun logical hlogical => hop ⟨logical, hlogical⟩] at h
    obtain ⟨_, _, h⟩ := Run.result_bind_eq_ok_iff.1 h
    obtain ⟨left, hleft, h⟩ := Run.result_bind_eq_ok_iff.1 h
    obtain ⟨right, hright, h⟩ := Run.result_bind_eq_ok_iff.1 h
    obtain ⟨value, _, hpure⟩ := Run.result_bind_eq_ok_iff.1 h
    cases hpure
    exact ⟨left, hleft, .inl ⟨right.1, hright⟩⟩

/-- What has a value at the head of the tokens is a tree. -/
theorem exists_preorder_of_reduceHead {tokens : List Token} {depth : Nat}
    {head : Operand × List Token} (h : (reduceHead context depth tokens).result = .ok head) :
    ∃ t : Tree, tokens = t.preorder ++ head.2 := by
  match tokens with
  | [] =>
    rw [reduceHead_nil] at h
    cases h
  | ⟨.literal value, offset⟩ :: tokens =>
    rw [reduceHead_literal] at h
    cases h
    exact ⟨.literal value offset, rfl⟩
  | ⟨.variable path, offset⟩ :: tokens =>
    rw [reduceHead_variable] at h
    obtain ⟨value, _, hpure⟩ := Run.result_bind_eq_ok_iff.1 h
    cases hpure
    exact ⟨.variable path offset, rfl⟩
  | ⟨.leftParen, offset⟩ :: tokens =>
    rw [reduceHead_parenthesis (.inl rfl)] at h
    cases h
  | ⟨.rightParen, offset⟩ :: tokens =>
    rw [reduceHead_parenthesis (.inr rfl)] at h
    cases h
  | ⟨.operator op, offset⟩ :: tokens =>
    rcases op.unary_or_binary with ⟨op, rfl⟩ | ⟨op, rfl⟩
    · rw [reduceHead_unary] at h
      obtain ⟨_, _, h⟩ := Run.result_bind_eq_ok_iff.1 h
      obtain ⟨x, hx, hpure⟩ := Run.result_bind_eq_ok_iff.1 h
      cases hpure
      obtain ⟨operand, rfl⟩ := exists_preorder_of_reduceHead hx
      exact ⟨.unary op offset operand, rfl⟩
    · obtain ⟨left, hleft, hright⟩ := exists_operands_of_reduceHead h
      obtain ⟨l, htokens⟩ := exists_preorder_of_reduceHead hleft
      have hlength : left.2.length ≤ tokens.length := by
        rw [htokens, List.length_append]
        omega
      -- a right operand that a logical operator leaves alone is a tree as well
      have hr : ∃ r : Tree, left.2 = r.preorder ++ head.2 := by
        rcases hright with ⟨value, hvalue⟩ | hskip
        · have hr := exists_preorder_of_reduceHead hvalue
          exact hr
        · exact skip_one_eq_ok_iff.1 hskip
      obtain ⟨r, hr⟩ := hr
      exact ⟨.binary op offset l r, by simp [htokens, hr, Tree.preorder]⟩
termination_by tokens.length
decreasing_by all_goals simp only [List.length_cons]; omega

end Evaluator

theorem evaluate_eq_reduceHead (tokens : List Token) (context : Evaluator.Context) :
    evaluate tokens context = Evaluator.reduceHead context 0 tokens >>= fun head =>
      if head.2.isEmpty then pure head.1 else .fail .notEnoughArguments := by
  simp only [evaluate, Evaluator.reduceHead, bind_assoc, pure_bind]

/-- Tokens that begin with a tree are evaluated to its value if there are no more,
    and fail otherwise, with the failure of the tree if it has one. -/
theorem evaluate_preorder_append (resolver : Option Resolver) (t : Tree) (extra : List Token) :
    evaluate (t.preorder ++ extra) { resolver } = t.value resolver >>= fun value =>
      if extra.isEmpty then pure value else .fail .notEnoughArguments := by
  rw [evaluate_eq_reduceHead, Evaluator.reduceHead_preorder rfl, bind_assoc]
  simp only [pure_bind]

theorem evaluate_preorder (resolver : Option Resolver) (t : Tree) :
    evaluate t.preorder { resolver } = t.value resolver := by
  have h := evaluate_preorder_append resolver t []
  simpa only [List.append_nil, List.isEmpty_nil, if_true, bind_pure] using h

theorem evaluateText_of_parse {text : String} {ordered : List Token}
    (h : parse text = .ok ordered) (context : Evaluator.Context) :
    evaluateText text context = evaluate ordered context := by
  rw [evaluateText, h]

theorem evaluateText_of_parse_eq {text : String} {t : Tree} (h : parse text = .ok t.preorder)
    (resolver : Option Resolver) : evaluateText text { resolver } = t.value resolver := by
  rw [evaluateText_of_parse h]
  exact evaluate_preorder resolver t

/-- Evaluation without a limit is the evaluation of trees. Tokens that come to a
    value are the preorder of one tree, which has that value; the preorder of any
    tree comes to its value, or its error, by the same calls; and further tokens
    leave the tree's own error or make one, after the same calls. -/
theorem evaluate_eq_value (resolver : Option Resolver) :
    (∀ tokens value, (evaluate tokens { resolver }).result = .ok value →
      ∃ t : Tree, tokens = t.preorder ∧ (∀ u : Tree, tokens = u.preorder → u = t) ∧
        (t.value resolver).result = .ok value) ∧
    (∀ t : Tree, evaluate t.preorder { resolver } = t.value resolver) ∧
    ∀ (t : Tree) (extra : List Token), extra ≠ [] →
      (evaluate (t.preorder ++ extra) { resolver }).calls = (t.value resolver).calls ∧
      ((∃ e, (t.value resolver).result = .error e ∧
          (evaluate (t.preorder ++ extra) { resolver }).result = .error e) ∨
        (∃ value, (t.value resolver).result = .ok value) ∧
          (evaluate (t.preorder ++ extra) { resolver }).result = .error .notEnoughArguments) := by
  refine ⟨fun tokens value h => ?_, evaluate_preorder resolver, fun t extra hextra => ?_⟩
  · have hhead := h
    rw [evaluate_eq_reduceHead] at hhead
    obtain ⟨head, hhead, hrest⟩ := Run.result_bind_eq_ok_iff.1 hhead
    obtain ⟨t, htokens⟩ := Evaluator.exists_preorder_of_reduceHead hhead
    have hempty : head.2 = [] := by
      split at hrest
      · exact List.isEmpty_iff.1 ‹_›
      · cases hrest
    rw [hempty, List.append_nil] at htokens
    subst htokens
    rw [evaluate_preorder] at h
    exact ⟨t, rfl, fun u hu => (Tree.preorder_injective hu).symm, h⟩
  · rw [evaluate_preorder_append]
    cases extra with
    | nil => exact absurd rfl hextra
    | cons first extra =>
      rcases hvalue : t.value resolver with ⟨calls, e | value⟩
      · exact ⟨rfl, .inl ⟨e, rfl, rfl⟩⟩
      · exact ⟨List.append_nil calls, .inr ⟨⟨value, rfl⟩, rfl⟩⟩

end ScalarExpr

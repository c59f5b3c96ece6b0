import ScalarExpr.Proofs.Groups
/-!
# The infix grammar

An expression in infix order is one operand or more, with binary operators between
them; unary operators may stand before an operand, and an operand may be an
expression in parentheses. Seen token by token, the expressions are the lists in
which every token stands in its place and the parentheses are balanced.

## Main definitions

- `Phrase`, `Infix` — the grammar
- `TokenKind.startsOperand` — the tokens that stand where an operand is expected
- `InPlace` — every token stands where it may
- `Balanced` — every parenthesis has its partner

## Main statements

- `Infix.inPlace`, `Infix.balanced_append_iff`: what holds of a phrase
- `infix_expression_iff`: the expressions are the balanced lists with every token in
  its place
-/

namespace ScalarExpr

variable [Regex.Engine]

/-- The phrases of the infix grammar: a literal, a variable or a group; one with
    unary operators before it; and operands with binary operators between them. -/
inductive Phrase where
  | atom
  | operand
  | expression

/-- The tokens are a phrase of the infix grammar. -/
inductive Infix : Phrase → List Token → Prop where
  | leaf {x : Token} (hx : x.kind.isOperand) : Infix .atom [x]
  | group {tokens : List Token} (leftOffset rightOffset : Nat)
    (inside : Infix .expression tokens) :
    Infix .atom (Token.grouped leftOffset rightOffset tokens)
  | atom {tokens : List Token} (h : Infix .atom tokens) : Infix .operand tokens
  | unary {tokens : List Token} (op : UnaryOperator) (offset : Nat)
    (operand : Infix .operand tokens) :
    Infix .operand (⟨.operator (.unary op), offset⟩ :: tokens)
  | single {tokens : List Token} (h : Infix .operand tokens) : Infix .expression tokens
  | binary {left right : List Token} (op : BinaryOperator) (offset : Nat)
    (operand : Infix .operand left) (others : Infix .expression right) :
    Infix .expression (left ++ ⟨.operator op.1, offset⟩ :: right)

/-- The tokens that an operand may begin with; all others come after one. -/
def TokenKind.startsOperand : TokenKind → Bool
  | literal _ | .variable _ | leftParen | operator (.unary _) => true
  | operator _ | rightParen => false

theorem BinaryOperator.startsOperand (op : BinaryOperator) :
    (TokenKind.operator op.1).startsOperand = false := by
  obtain ⟨op, harity⟩ := op
  cases op with
  | unary op => cases harity
  | logical | bitwise | comparison | arithmetic => rfl

/-- Where an operand is expected, one begins, and after an operand stands what may
    follow it; at the end none is expected. So no two operands are neighbours, no
    binary operator lacks an operand on either side, no unary operator follows its
    operand, and no parentheses are empty. -/
def InPlace : Bool → List Token → Prop
  | operandExpected, [] => operandExpected = false
  | operandExpected, t :: tokens =>
    t.kind.startsOperand = operandExpected ∧ InPlace t.kind.expectsOperand tokens

instance InPlace.decidable : (operandExpected : Bool) → (tokens : List Token) →
    Decidable (InPlace operandExpected tokens)
  | operandExpected, [] => inferInstanceAs (Decidable (operandExpected = false))
  | operandExpected, t :: tokens =>
    have := InPlace.decidable t.kind.expectsOperand tokens
    inferInstanceAs (Decidable (t.kind.startsOperand = operandExpected ∧ InPlace _ tokens))

/-- Each closing parenthesis ends a group, and none is left open, if the tokens
    begin within `depth` groups. -/
def Balanced : Nat → List Token → Prop
  | depth, [] => depth = 0
  | depth, t :: tokens =>
    match t.kind, depth with
    | .leftParen, depth => Balanced (depth + 1) tokens
    | .rightParen, 0 => False
    | .rightParen, outer + 1 => Balanced outer tokens
    | .literal _, depth | .variable _, depth | .operator _, depth => Balanced depth tokens

-- ════════════════════════════════════════════════════════════════════════
-- What holds of a phrase
-- ════════════════════════════════════════════════════════════════════════

theorem inPlace_cons_operand {x : Token} (hx : x.kind.isOperand) (operandExpected : Bool)
    (tokens : List Token) :
    InPlace operandExpected (x :: tokens) ↔ true = operandExpected ∧ InPlace false tokens := by
  obtain ⟨kind, offset⟩ := x
  cases kind with
  | literal | «variable» => rfl
  | operator | leftParen | rightParen => cases hx

theorem balanced_cons_operand {x : Token} (hx : x.kind.isOperand) (depth : Nat)
    (tokens : List Token) : Balanced depth (x :: tokens) ↔ Balanced depth tokens := by
  obtain ⟨kind, offset⟩ := x
  cases kind with
  | literal | «variable» => rfl
  | operator | leftParen | rightParen => cases hx

/-- A phrase stands where an operand is expected, and leaves none expected. -/
theorem Infix.inPlace_append {phrase : Phrase} {tokens : List Token} (h : Infix phrase tokens)
    {rest : List Token} (hrest : InPlace false rest) : InPlace true (tokens ++ rest) := by
  induction h generalizing rest with
  | leaf hx => exact (inPlace_cons_operand hx true rest).2 ⟨rfl, hrest⟩
  | @group tokens leftOffset rightOffset _ ih =>
    rw [Token.grouped, List.append_assoc]
    have hclosed : InPlace false (⟨.rightParen, rightOffset⟩ :: rest) := ⟨rfl, hrest⟩
    exact ⟨rfl, ih hclosed⟩
  | atom _ ih => exact ih hrest
  | unary op offset _ ih => exact ⟨rfl, ih hrest⟩
  | single _ ih => exact ih hrest
  | binary op offset _ _ ihOperand ihOthers =>
    rw [List.append_assoc]
    exact ihOperand ⟨op.startsOperand, ihOthers hrest⟩

theorem Infix.inPlace {phrase : Phrase} {tokens : List Token} (h : Infix phrase tokens) :
    InPlace true tokens := by
  have hend : InPlace false [] := rfl
  simpa only [List.append_nil] using h.inPlace_append hend

/-- A phrase closes the groups that it opens, and no others. -/
theorem Infix.balanced_append_iff {phrase : Phrase} {tokens : List Token}
    (h : Infix phrase tokens) (depth : Nat) (rest : List Token) :
    Balanced depth (tokens ++ rest) ↔ Balanced depth rest := by
  induction h generalizing depth rest with
  | leaf hx => exact balanced_cons_operand hx depth rest
  | @group tokens leftOffset rightOffset _ ih =>
    rw [Token.grouped, List.append_assoc]
    exact ih (depth + 1) (⟨.rightParen, rightOffset⟩ :: rest)
  | atom _ ih => exact ih depth rest
  | unary op offset _ ih => exact ih depth rest
  | single _ ih => exact ih depth rest
  | @binary left right op offset _ _ ihOperand ihOthers =>
    rw [List.append_assoc, ihOperand depth]
    exact ihOthers depth rest

-- ════════════════════════════════════════════════════════════════════════
-- Tokens in their places are phrases
-- ════════════════════════════════════════════════════════════════════════

mutual

/-- Where an operand is expected, one stands, and what is behind it is in place. -/
theorem exists_infix_operand {depth : Nat} {tokens : List Token} (hplace : InPlace true tokens)
    (hbalanced : Balanced depth tokens) :
    ∃ operand rest, tokens = operand ++ rest ∧ Infix .operand operand ∧ InPlace false rest ∧
      Balanced depth rest := by
  match tokens with
  | [] => cases hplace
  | ⟨.literal value, offset⟩ :: tokens =>
    exact ⟨[_], tokens, rfl, .atom (.leaf rfl), hplace.2, hbalanced⟩
  | ⟨.variable path, offset⟩ :: tokens =>
    exact ⟨[_], tokens, rfl, .atom (.leaf rfl), hplace.2, hbalanced⟩
  | ⟨.rightParen, offset⟩ :: tokens => cases hplace.1
  | ⟨.operator op, offset⟩ :: tokens =>
    rcases op.unary_or_binary with ⟨op, rfl⟩ | ⟨op, rfl⟩
    · obtain ⟨operand, rest, rfl, hoperand, hrest⟩ := exists_infix_operand hplace.2 hbalanced
      exact ⟨_, rest, rfl, .unary op offset hoperand, hrest⟩
    · exact absurd hplace.1 (by rw [op.startsOperand]; decide)
  | ⟨.leftParen, offset⟩ :: tokens =>
    have hinner : Balanced (depth + 1) tokens := hbalanced
    obtain ⟨inside, rest, rfl, hinside, hrest, hclosed, hend⟩ :=
      exists_infix_expression hplace.2 hinner
    -- the group is closed, for it cannot be left open to the end
    rcases hend with rfl | ⟨rightOffset, behind, rfl⟩
    · cases hclosed
    · refine ⟨_, behind, ?_, .atom (.group offset rightOffset hinside), hrest.2, hclosed⟩
      simp [Token.grouped]
termination_by (tokens.length, 0)
decreasing_by all_goals simp only [List.length_cons]; omega

/-- Where an operand is expected, an expression stands up to the parenthesis that
    closes the group around it, or the end. -/
theorem exists_infix_expression {depth : Nat} {tokens : List Token} (hplace : InPlace true tokens)
    (hbalanced : Balanced depth tokens) :
    ∃ expression rest, tokens = expression ++ rest ∧ Infix .expression expression ∧
      InPlace false rest ∧ Balanced depth rest ∧
      (rest = [] ∨ ∃ offset behind, rest = ⟨.rightParen, offset⟩ :: behind) := by
  obtain ⟨operand, rest, htokens, hoperand, hrest, hclosed⟩ :=
    exists_infix_operand hplace hbalanced
  match rest with
  | [] => exact ⟨operand, [], htokens, .single hoperand, hrest, hclosed, .inl rfl⟩
  | ⟨.rightParen, offset⟩ :: behind =>
    exact ⟨operand, _, htokens, .single hoperand, hrest, hclosed, .inr ⟨offset, behind, rfl⟩⟩
  | ⟨.literal value, offset⟩ :: behind => cases hrest.1
  | ⟨.variable path, offset⟩ :: behind => cases hrest.1
  | ⟨.leftParen, offset⟩ :: behind => cases hrest.1
  | ⟨.operator op, offset⟩ :: behind =>
    rcases op.unary_or_binary with ⟨op, rfl⟩ | ⟨op, rfl⟩
    · cases hrest.1
    · have hlength : behind.length < tokens.length := by
        rw [htokens, List.length_append, List.length_cons]
        omega
      obtain ⟨others, rest, rfl, hothers, hbehind⟩ := exists_infix_expression hrest.2 hclosed
      exact ⟨_, rest, by simp [htokens], .binary op offset hoperand hothers, hbehind⟩
termination_by (tokens.length, 1)
decreasing_by all_goals omega

end

/-- The expressions of the grammar are the lists of tokens that are balanced and have
    every token in its place. -/
theorem infix_expression_iff {tokens : List Token} :
    Infix .expression tokens ↔ InPlace true tokens ∧ Balanced 0 tokens := by
  constructor
  · intro h
    have hbalanced := h.balanced_append_iff 0 []
    rw [List.append_nil] at hbalanced
    exact ⟨h.inPlace, hbalanced.2 rfl⟩
  · rintro ⟨hplace, hbalanced⟩
    obtain ⟨expression, rest, rfl, hexpression, _, hclosed, hend⟩ :=
      exists_infix_expression hplace hbalanced
    rcases hend with rfl | ⟨offset, behind, rfl⟩
    · rw [List.append_nil]
      exact hexpression
    · cases hclosed

end ScalarExpr

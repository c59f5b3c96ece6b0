import ScalarExpr.Proofs.Tree
import ScalarExpr.Token.PrefixOrder
/-!
# Placing tokens from a state

What tokens do to a stack is seen one part of the text at a time: the tokens on
the right are placed first, and those before them go on from the state that
these leave.

## Main definitions

- `PrefixOrder.placeFrom?`, `PrefixOrder.orderFrom?` — place tokens from a state;
  the second also places what waits in the end
- `PrefixOrder.waiting` — operators as they wait on the stack
- `PrefixOrder.State.over` — a state with more tokens placed behind its own

## Main statements

- `PrefixOrder.orderFrom?_append`: tokens are placed part by part
- `PrefixOrder.orderFrom?_over`: tokens that are placed already change nothing
- `PrefixOrder.placePreceding_waiting`, `PrefixOrder.placeGroup?_waiting`,
  `PrefixOrder.placeAll?_waiting`: operators that wait are placed in a row
-/

namespace ScalarExpr

namespace Operator

theorem precedence_unary (op : UnaryOperator) : (unary op).precedence = 12 := rfl

theorem precedence_le (op : Operator) : op.precedence ≤ 12 := by
  cases op with
  | logical op | bitwise op | comparison op | arithmetic op => cases op <;> decide
  | unary op => exact Nat.le_refl _

theorem precedence_lt_of_ne_unary {op : Operator} (h : ∀ u, op ≠ unary u) :
    op.precedence < 12 := by
  cases op with
  | unary u => exact absurd rfl (h u)
  | logical op | bitwise op | comparison op | arithmetic op => cases op <;> decide

/-- Only powers group on the right, and nothing else binds as tight as they do. -/
theorem associativity_eq_right_iff (op : Operator) :
    op.associativity = .right ↔ op.precedence = 11 := by
  cases op with
  | logical op | bitwise op | comparison op | arithmetic op | unary op => cases op <;> decide

theorem associativity_eq_of_precedence_eq {op op' : Operator}
    (h : op.precedence = op'.precedence) : op.associativity = op'.associativity := by
  have hop := op.associativity_eq_right_iff
  rw [h, ← op'.associativity_eq_right_iff] at hop
  cases hassoc : op'.associativity with
  | right => exact hop.2 hassoc
  | left =>
    cases hassoc' : op.associativity with
    | left => rfl
    | right => exact absurd (hop.1 hassoc') (by rw [hassoc]; decide)

end Operator

theorem BinaryOperator.precedence_lt (op : BinaryOperator) : op.1.precedence < 12 :=
  Operator.precedence_lt_of_ne_unary op.ne_unary

namespace PrefixOrder

-- ════════════════════════════════════════════════════════════════════════
-- Operators that stay on the stack
-- ════════════════════════════════════════════════════════════════════════

theorem precedes_eq_true_iff {op incoming : Operator} :
    precedes op incoming = true ↔ incoming.precedence < op.precedence ∨
      (incoming.precedence = op.precedence ∧ incoming.associativity = .right) := by
  simp [precedes]

/-- An operator that comes in leaves the top of the stack where it is. -/
def Holds (incoming : Operator) : List Pending → Prop
  | .operator op _ :: _ => precedes op incoming = false
  | _ => True

theorem Holds.mono {root op : Operator} {stack : List Pending} (h : Holds root stack)
    (hle : root.precedence ≤ op.precedence) : Holds op stack := by
  rcases stack with _ | ⟨⟨top, offset⟩ | _, stack⟩
  · trivial
  · have htop : precedes top root = false := h
    change precedes top op = false
    rw [← Bool.not_eq_true, precedes_eq_true_iff] at htop ⊢
    rintro (hlt | ⟨heq, hright⟩)
    · exact htop (.inl (by omega))
    · rcases Nat.lt_or_eq_of_le hle with hlt | hroot
      · exact htop (.inl (by omega))
      · rw [← Operator.associativity_eq_of_precedence_eq hroot] at hright
        exact htop (.inr ⟨by omega, hright⟩)
  · trivial

/-- Nothing binds tighter than a unary operator, so it places nothing. -/
theorem holds_unary (op : UnaryOperator) (stack : List Pending) : Holds (.unary op) stack := by
  rcases stack with _ | ⟨⟨top, offset⟩ | _, stack⟩
  · trivial
  · change precedes top (.unary op) = false
    have hle := top.precedence_le
    rw [← Bool.not_eq_true, precedes_eq_true_iff, Operator.precedence_unary]
    rintro (hlt | ⟨_, hright⟩)
    · omega
    · cases hright
  · trivial

variable [Regex.Engine]

-- ════════════════════════════════════════════════════════════════════════
-- Parts of a text
-- ════════════════════════════════════════════════════════════════════════

/-- Place tokens from the right to the left, starting from a state. -/
def placeFrom? (tokens : List Token) (s : State) : Option State :=
  tokens.foldr (fun t s => s.bind (place t)) (some s)

/-- Place tokens from a state, and after them all operators that wait. -/
def orderFrom? (tokens : List Token) (s : State) : Option (List Token) :=
  (placeFrom? tokens s).bind fun s => placeAll? s.stack s.placed

@[simp] theorem placeFrom?_nil (s : State) : placeFrom? [] s = some s := rfl

@[simp] theorem placeFrom?_cons (t : Token) (tokens : List Token) (s : State) :
    placeFrom? (t :: tokens) s = (placeFrom? tokens s).bind (place t) := rfl

theorem placeFrom?_append (a b : List Token) (s : State) :
    placeFrom? (a ++ b) s = (placeFrom? b s).bind (placeFrom? a) := by
  induction a with
  | nil =>
    rw [List.nil_append]
    cases placeFrom? b s <;> rfl
  | cons t a ih =>
    rw [List.cons_append, placeFrom?_cons, ih]
    cases placeFrom? b s <;> rfl

theorem orderFrom?_append (a b : List Token) (s : State) :
    orderFrom? (a ++ b) s = (placeFrom? b s).bind (orderFrom? a) := by
  rw [orderFrom?, placeFrom?_append]
  cases placeFrom? b s <;> rfl

theorem toPrefix_eq_orderFrom? (tokens : List Token) :
    toPrefix tokens = ((orderFrom? tokens {}).map .ok).getD (.error .mismatchedParentheses) := by
  have h : (placeTokens? tokens).bind (fun s => placeAll? s.stack s.placed) =
      orderFrom? tokens {} := rfl
  rw [toPrefix, h]
  cases orderFrom? tokens {} <;> rfl

theorem toPrefix_eq_ok_iff {tokens ordered : List Token} :
    toPrefix tokens = .ok ordered ↔ orderFrom? tokens {} = some ordered := by
  rw [toPrefix_eq_orderFrom?]
  cases orderFrom? tokens {} <;> simp

theorem toPrefix_eq_error_iff {tokens : List Token} {e : Error} :
    toPrefix tokens = .error e ↔ orderFrom? tokens {} = none ∧ e = .mismatchedParentheses := by
  rw [toPrefix_eq_orderFrom?]
  cases orderFrom? tokens {} <;> simp [eq_comm]

-- ════════════════════════════════════════════════════════════════════════
-- Operators that wait
-- ════════════════════════════════════════════════════════════════════════

/-- Operators with their offsets as they wait on the stack, the last one met
    first. -/
def waiting (ops : List (Operator × Nat)) : List Pending :=
  ops.map fun op => .operator op.1 op.2

/-- Operators with their offsets as tokens. -/
def operatorTokens (ops : List (Operator × Nat)) : List Token :=
  ops.map fun op => ⟨.operator op.1, op.2⟩

omit [Regex.Engine] in
@[simp] theorem waiting_append (a b : List (Operator × Nat)) :
    waiting (a ++ b) = waiting a ++ waiting b :=
  List.map_append

@[simp] theorem operatorTokens_append (a b : List (Operator × Nat)) :
    operatorTokens (a ++ b) = operatorTokens a ++ operatorTokens b :=
  List.map_append

theorem placePreceding_of_holds {incoming : Operator} {stack : List Pending}
    (h : Holds incoming stack) (placed : List Token) :
    placePreceding incoming stack placed = ⟨stack, placed⟩ := by
  cases stack with
  | nil => rfl
  | cons p stack =>
    cases p with
    | group => rfl
    | operator op offset =>
      have hop : precedes op incoming = false := h
      simp [placePreceding, hop]

theorem placePreceding_waiting {incoming : Operator} {ops : List (Operator × Nat)}
    (h : ∀ op ∈ ops, precedes op.1 incoming = true) (stack : List Pending)
    (placed : List Token) :
    placePreceding incoming (waiting ops ++ stack) placed =
      placePreceding incoming stack ((operatorTokens ops).reverse ++ placed) := by
  induction ops generalizing placed with
  | nil => rfl
  | cons op ops ih =>
    have hop : precedes op.1 incoming = true := h op List.mem_cons_self
    have hops := ih (fun op' hop' => h op' (List.mem_cons_of_mem op hop'))
      (⟨.operator op.1, op.2⟩ :: placed)
    simp only [waiting, operatorTokens, List.map_cons, List.cons_append, placePreceding, hop,
      if_true, List.reverse_cons, List.append_assoc, List.nil_append] at hops ⊢
    exact hops

theorem place_operator_of_holds {incoming : Operator} {stack : List Pending}
    (h : Holds incoming stack) (offset : Nat) (placed : List Token) :
    place ⟨.operator incoming, offset⟩ ⟨stack, placed⟩ =
      some ⟨.operator incoming offset :: stack, placed⟩ := by
  simp only [place, placePreceding_of_holds h]

theorem place_operator_waiting {incoming : Operator} {ops : List (Operator × Nat)}
    {stack : List Pending} (h : ∀ op ∈ ops, precedes op.1 incoming = true)
    (hholds : Holds incoming stack) (offset : Nat) (placed : List Token) :
    place ⟨.operator incoming, offset⟩ ⟨waiting ops ++ stack, placed⟩ =
      some ⟨waiting [(incoming, offset)] ++ stack, (operatorTokens ops).reverse ++ placed⟩ := by
  simp only [place, placePreceding_waiting h]
  exact place_operator_of_holds hholds offset _

theorem placeGroup?_waiting (ops : List (Operator × Nat)) (stack : List Pending)
    (placed : List Token) :
    placeGroup? (waiting ops ++ stack) placed =
      placeGroup? stack ((operatorTokens ops).reverse ++ placed) := by
  induction ops generalizing placed with
  | nil => rfl
  | cons op ops ih =>
    have hops := ih (⟨.operator op.1, op.2⟩ :: placed)
    simp only [waiting, operatorTokens, List.map_cons, List.cons_append, placeGroup?,
      List.reverse_cons, List.append_assoc, List.nil_append] at hops ⊢
    exact hops

theorem placeAll?_waiting (ops : List (Operator × Nat)) (stack : List Pending)
    (placed : List Token) :
    placeAll? (waiting ops ++ stack) placed =
      placeAll? stack ((operatorTokens ops).reverse ++ placed) := by
  induction ops generalizing placed with
  | nil => rfl
  | cons op ops ih =>
    have hops := ih (⟨.operator op.1, op.2⟩ :: placed)
    simp only [waiting, operatorTokens, List.map_cons, List.cons_append, placeAll?,
      List.reverse_cons, List.append_assoc, List.nil_append] at hops ⊢
    exact hops

/-- The state with more tokens behind those it has placed. -/
def State.over (s : State) (placed : List Token) : State := ⟨s.stack, s.placed ++ placed⟩

theorem placePreceding_over (incoming : Operator) (stack : List Pending)
    (a placed : List Token) :
    placePreceding incoming stack (a ++ placed) =
      (placePreceding incoming stack a).over placed := by
  induction stack generalizing a with
  | nil => rfl
  | cons p stack ih =>
    cases p with
    | group => rfl
    | operator op offset =>
      simp only [placePreceding]
      split
      · exact ih (⟨.operator op, offset⟩ :: a)
      · rfl

theorem placeGroup?_over (stack : List Pending) (a placed : List Token) :
    placeGroup? stack (a ++ placed) = (placeGroup? stack a).map (·.over placed) := by
  induction stack generalizing a with
  | nil => rfl
  | cons p stack ih =>
    cases p with
    | group => rfl
    | operator op offset => exact ih (⟨.operator op, offset⟩ :: a)

theorem placeAll?_over (stack : List Pending) (a placed : List Token) :
    placeAll? stack (a ++ placed) = (placeAll? stack a).map (· ++ placed) := by
  induction stack generalizing a with
  | nil => rfl
  | cons p stack ih =>
    cases p with
    | group => rfl
    | operator op offset => exact ih (⟨.operator op, offset⟩ :: a)

theorem place_over (t : Token) (s : State) (placed : List Token) :
    place t (s.over placed) = (place t s).map (·.over placed) := by
  obtain ⟨kind, offset⟩ := t
  cases kind with
  | literal value => rfl
  | «variable» path => rfl
  | operator op =>
    simp only [place, State.over, placePreceding_over, Option.map_some]
  | leftParen => exact placeGroup?_over s.stack s.placed placed
  | rightParen => rfl

theorem placeFrom?_over (tokens : List Token) (s : State) (placed : List Token) :
    placeFrom? tokens (s.over placed) = (placeFrom? tokens s).map (·.over placed) := by
  induction tokens with
  | nil => rfl
  | cons t tokens ih =>
    rw [placeFrom?_cons, ih, placeFrom?_cons]
    cases placeFrom? tokens s with
    | none => rfl
    | some s' => exact place_over t s' placed

/-- What is placed already stays behind all that is placed later. -/
theorem orderFrom?_over (tokens : List Token) (s : State) (placed : List Token) :
    orderFrom? tokens (s.over placed) = (orderFrom? tokens s).map (· ++ placed) := by
  rw [orderFrom?, orderFrom?, placeFrom?_over]
  cases placeFrom? tokens s with
  | none => rfl
  | some s' => exact placeAll?_over s'.stack s'.placed placed

end PrefixOrder

end ScalarExpr

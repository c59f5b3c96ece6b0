import ScalarExpr.Proofs.Placing
import ScalarExpr.Regex.Dialect
/-!
# Runs of unary operators

Unary operators that stand in a row before an operand are placed as one block
with it. They come out in reverse: the operator nearest to the operand is the
first in prefix order, so it is applied last.

## Main definitions

- `TokenKind.isOperand`, `TokenKind.isUnary`, `TokenKind.opensOperand` — literals
  and variables; unary operators; what an operand may follow at once

## Main statements

- `toPrefix_unaryRun`: a run takes the place of its operand, in reverse
- `toPrefix_unaryRun_ne`: so a run of different operators is not kept in order
-/

namespace ScalarExpr

section

variable [Regex.Engine]

namespace TokenKind

/-- A literal or a variable. -/
def isOperand : TokenKind → Bool
  | literal _ | .variable _ => true
  | _ => false

/-- A unary operator. -/
def isUnary : TokenKind → Bool
  | operator (.unary _) => true
  | _ => false

theorem isUnary_iff {kind : TokenKind} : kind.isUnary ↔ ∃ op, kind = .operator (.unary op) := by
  constructor
  · intro h
    unfold isUnary at h
    split at h
    · exact ⟨_, rfl⟩
    · cases h
  · rintro ⟨op, rfl⟩
    rfl

/-- A binary operator or an opening parenthesis. -/
def opensOperand : TokenKind → Bool
  | operator op => op.arity = 2
  | leftParen => true
  | _ => false

end TokenKind

namespace PrefixOrder

theorem place_operand {t : Token} (h : t.kind.isOperand) (s : State) :
    place t s = some ⟨s.stack, t :: s.placed⟩ := by
  obtain ⟨kind, offset⟩ := t
  cases kind with
  | literal | «variable» => rfl
  | operator | leftParen | rightParen => cases h

theorem exists_operatorTokens_eq {us : List Token} (h : ∀ u ∈ us, u.kind.isUnary) :
    ∃ ops, operatorTokens ops = us ∧ ∀ op ∈ ops, ∃ u, op.1 = .unary u := by
  induction us with
  | nil => exact ⟨[], rfl, fun op hop => absurd hop List.not_mem_nil⟩
  | cons u us ih =>
    obtain ⟨ops, hops, hunary⟩ := ih fun u' hu' => h u' (List.mem_cons_of_mem u hu')
    obtain ⟨kind, offset⟩ := u
    obtain ⟨op, rfl⟩ := TokenKind.isUnary_iff.1 (h _ List.mem_cons_self)
    refine ⟨(.unary op, offset) :: ops, ?_, ?_⟩
    · rw [← hops]
      rfl
    · intro op' hop'
      rcases List.mem_cons.1 hop' with rfl | hop'
      · exact ⟨op, rfl⟩
      · exact hunary op' hop'

/-- A run of unary operators waits as a whole: none of them places anything. -/
theorem placeFrom?_unaryRun {ops : List (Operator × Nat)} (h : ∀ op ∈ ops, ∃ u, op.1 = .unary u)
    (s : State) :
    placeFrom? (operatorTokens ops) s = some ⟨waiting ops ++ s.stack, s.placed⟩ := by
  induction ops with
  | nil => rfl
  | cons op ops ih =>
    obtain ⟨u, hu⟩ := h op List.mem_cons_self
    have hrest := ih fun op' hop' => h op' (List.mem_cons_of_mem op hop')
    have hholds : Holds op.1 (waiting ops ++ s.stack) := hu ▸ holds_unary u _
    change (placeFrom? (operatorTokens ops) s).bind (place ⟨.operator op.1, op.2⟩) = _
    rw [hrest]
    exact place_operator_of_holds hholds op.2 s.placed

/-- What may stand before an operand places all unary operators that wait on top
    of the stack. -/
theorem place_unaryRun {t : Token} (ht : t.kind.opensOperand) {ops : List (Operator × Nat)}
    (h : ∀ op ∈ ops, ∃ u, op.1 = .unary u) (stack : List Pending) (placed : List Token) :
    place t ⟨waiting ops ++ stack, placed⟩ =
      place t ⟨stack, (operatorTokens ops).reverse ++ placed⟩ := by
  obtain ⟨kind, offset⟩ := t
  cases kind with
  | operator incoming =>
    have hbinary : incoming.precedence < 12 :=
      BinaryOperator.precedence_lt ⟨incoming, of_decide_eq_true ht⟩
    have hprecedes : ∀ op ∈ ops, precedes op.1 incoming = true := by
      intro op hop
      obtain ⟨u, hu⟩ := h op hop
      rw [precedes_eq_true_iff, hu, Operator.precedence_unary]
      exact .inl hbinary
    simp only [place, placePreceding_waiting hprecedes]
  | leftParen => exact placeGroup?_waiting ops stack placed
  | literal | «variable» | rightParen => cases ht

theorem orderFrom?_unaryRun {a : List Token} (ha : ∀ t ∈ a.getLast?, t.kind.opensOperand)
    {ops : List (Operator × Nat)} (h : ∀ op ∈ ops, ∃ u, op.1 = .unary u)
    (stack : List Pending) (placed : List Token) :
    orderFrom? a ⟨waiting ops ++ stack, placed⟩ =
      orderFrom? a ⟨stack, (operatorTokens ops).reverse ++ placed⟩ := by
  rcases List.eq_nil_or_concat a with rfl | ⟨a, t, rfl⟩
  · exact placeAll?_waiting ops stack placed
  · have ht : t.kind.opensOperand := ha t (by simp)
    simp only [List.concat_eq_append, orderFrom?_append, placeFrom?_cons, placeFrom?_nil,
      Option.bind_some, place_unaryRun ht h]

/-- A run of unary operators is placed with its operand as one block, the run in
    reverse. -/
theorem orderFrom?_block {a us : List Token} {x : Token}
    (ha : ∀ t ∈ a.getLast?, t.kind.opensOperand) (hus : ∀ u ∈ us, u.kind.isUnary)
    (hx : x.kind.isOperand) (b : List Token) (s : State) :
    orderFrom? (a ++ us ++ [x] ++ b) s =
      (placeFrom? b s).bind fun s =>
        (orderFrom? a ⟨s.stack, []⟩).map (· ++ (us.reverse ++ x :: s.placed)) := by
  obtain ⟨ops, rfl, hunary⟩ := exists_operatorTokens_eq hus
  rw [orderFrom?_append]
  cases placeFrom? b s with
  | none => rfl
  | some s =>
    rw [Option.bind_some, Option.bind_some, orderFrom?_append, placeFrom?_cons, placeFrom?_nil,
      Option.bind_some, place_operand hx, Option.bind_some, orderFrom?_append,
      placeFrom?_unaryRun hunary, Option.bind_some, orderFrom?_unaryRun ha hunary]
    exact orderFrom?_over a ⟨s.stack, []⟩ _

end PrefixOrder

open PrefixOrder

/-- A run of unary operators before an operand changes no failure, and where there
    is none it comes out right before the operand, in reverse. It keeps its order
    exactly if it reads alike from both sides. -/
theorem toPrefix_unaryRun {a : List Token} (ha : ∀ t ∈ a.getLast?, t.kind.opensOperand)
    (b : List Token) :
    (∀ us x, (∀ u ∈ us, u.kind.isUnary) → x.kind.isOperand →
      toPrefix (a ++ [x] ++ b) = .error .mismatchedParentheses ∧
      toPrefix (a ++ us ++ [x] ++ b) = .error .mismatchedParentheses) ∨
    ∃ p q, ∀ us x, (∀ u ∈ us, u.kind.isUnary) → x.kind.isOperand →
      toPrefix (a ++ [x] ++ b) = .ok (p ++ [x] ++ q) ∧
      toPrefix (a ++ us ++ [x] ++ b) = .ok (p ++ us.reverse ++ [x] ++ q) ∧
      ((p ++ us.reverse ++ [x] ++ q).map Token.kind = (p ++ us ++ [x] ++ q).map Token.kind ↔
        (us.map Token.kind).reverse = us.map Token.kind) := by
  have hnil : ∀ u ∈ ([] : List Token), u.kind.isUnary := fun u hu => absurd hu List.not_mem_nil
  have hrun := fun (us : List Token) (x : Token) (hus : ∀ u ∈ us, u.kind.isUnary)
    (hx : x.kind.isOperand) => orderFrom?_block ha hus hx b {}
  have halone := fun (x : Token) (hx : x.kind.isOperand) => orderFrom?_block ha hnil hx b {}
  simp only [toPrefix_eq_ok_iff, toPrefix_eq_error_iff, and_true]
  cases hright : placeFrom? b {} with
  | none =>
    simp only [hright, Option.bind_none, List.append_nil] at hrun halone
    exact .inl fun us x hus hx => ⟨halone x hx, hrun us x hus hx⟩
  | some s =>
    simp only [hright, Option.bind_some, List.append_nil] at hrun halone
    cases hleft : orderFrom? a ⟨s.stack, []⟩ with
    | none =>
      simp only [hleft, Option.map_none] at hrun halone
      exact .inl fun us x hus hx => ⟨halone x hx, hrun us x hus hx⟩
    | some p =>
      simp only [hleft, Option.map_some] at hrun halone
      refine .inr ⟨p, s.placed, fun us x hus hx => ⟨?_, ?_, ?_⟩⟩
      · rw [halone x hx]
        simp
      · rw [hrun us x hus hx]
        simp
      · simp [List.map_reverse]

end

theorem toPrefix_unaryRun_within_group :
    (∀ t ∈ [Token.mk (.variable "y") 0, ⟨.operator (.arithmetic .power), 2⟩,
      ⟨.leftParen, 5⟩].getLast?, t.kind.opensOperand) ∧
    ∃ p q, ∀ us x, (∀ u ∈ us, u.kind.isUnary) → x.kind.isOperand →
      toPrefix ([⟨.variable "y", 0⟩, ⟨.operator (.arithmetic .power), 2⟩, ⟨.leftParen, 5⟩] ++
        us ++ [x] ++ [⟨.rightParen, 9⟩]) = .ok (p ++ us.reverse ++ [x] ++ q) := by
  have ha : ∀ t ∈ [Token.mk (.variable "y") 0, ⟨.operator (.arithmetic .power), 2⟩,
      ⟨.leftParen, 5⟩].getLast?, t.kind.opensOperand := by decide
  refine ⟨ha, ?_⟩
  rcases toPrefix_unaryRun ha [⟨.rightParen, 9⟩] with h | ⟨p, q, h⟩
  · have hfails := (h [] ⟨.literal .null, 6⟩ (fun u hu => nomatch hu) rfl).1
    cases hfails
  · exact ⟨p, q, fun us x hus hx => (h us x hus hx).2.1⟩

/-- A run of two different operators does not keep its order. -/
theorem toPrefix_unaryRun_ne :
    ¬ ∀ us x, (∀ u ∈ us, u.kind.isUnary) → x.kind.isOperand →
      ∃ ordered, toPrefix (us ++ [x]) = .ok ordered ∧
        ordered.map Token.kind = (us ++ [x]).map Token.kind := by
  intro h
  obtain ⟨ordered, hordered, hkinds⟩ := h
    [⟨.operator (.unary .not), 0⟩, ⟨.operator (.unary .minus), 1⟩] ⟨.literal .null, 2⟩
    (by decide) rfl
  cases hordered
  exact absurd hkinds (by decide)

end ScalarExpr

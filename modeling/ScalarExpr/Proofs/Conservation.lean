import ScalarExpr.Proofs.Operands
import ScalarExpr.Proofs.Sentences
import ScalarExpr.Regex.Dialect
/-!
# Prefix order keeps every token

Putting tokens in prefix order moves operators and leaves the parentheses out, and
does nothing else. While the tokens are placed, what waits and what is placed are
together what has been met so far. Only parentheses that do not match are refused.

## Main definitions

- `TokenKind.isParenthesis`, `unparenthesized` — the parentheses, and tokens without them
- `openings`, `closings` — how many parentheses of each kind there are
- `ParenthesesMatch` — no initial part closes more than it opens, and all is closed
- `PrefixOrder.State.tokens` — the tokens that a state holds

## Main statements

- `balanced_iff_matchWithin`: balance by depth is balance by counts
- `PrefixOrder.perm_of_place`, `PrefixOrder.perm_of_placeFrom?`: a state holds what it
  held before and the tokens that are placed
- `toPrefix_keeps_tokens`: what is refused, and what comes out
-/

namespace ScalarExpr

section

variable [Regex.Engine]

/-- An opening or a closing parenthesis. -/
def TokenKind.isParenthesis : TokenKind → Bool
  | leftParen | rightParen => true
  | _ => false

/-- The tokens without the parentheses, in their order. -/
def unparenthesized (tokens : List Token) : List Token :=
  tokens.filter fun t => !t.kind.isParenthesis

-- ════════════════════════════════════════════════════════════════════════
-- Counting parentheses
-- ════════════════════════════════════════════════════════════════════════

/-- The number of opening parentheses. -/
def openings (tokens : List Token) : Nat := tokens.countP (·.kind = .leftParen)

/-- The number of closing parentheses. -/
def closings (tokens : List Token) : Nat := tokens.countP (·.kind = .rightParen)

/-- No initial part has more closing parentheses than opening ones, and all of the
    tokens have as many of both. -/
structure ParenthesesMatch (tokens : List Token) : Prop where
  closings_le : ∀ front, front <+: tokens → closings front ≤ openings front
  openings_eq : openings tokens = closings tokens

/-- The parentheses match if `depth` groups are open before the tokens. -/
def MatchWithin (depth : Nat) (tokens : List Token) : Prop :=
  (∀ front, front <+: tokens → closings front ≤ depth + openings front) ∧
    depth + openings tokens = closings tokens

theorem matchWithin_zero_iff (tokens : List Token) :
    MatchWithin 0 tokens ↔ ParenthesesMatch tokens := by
  simp only [MatchWithin, Nat.zero_add]
  exact ⟨fun h => ⟨h.1, h.2⟩, fun h => ⟨h.closings_le, h.openings_eq⟩⟩

/-- An initial part of tokens is nothing, or has the first of them. -/
theorem forall_prefix_cons_iff {t : Token} {tokens : List Token} {P : List Token → Prop} :
    (∀ front, front <+: t :: tokens → P front) ↔
      P [] ∧ ∀ front, front <+: tokens → P (t :: front) := by
  constructor
  · intro h
    exact ⟨h [] List.nil_prefix, fun front hfront => h _ ((List.prefix_cons_inj t).2 hfront)⟩
  · rintro ⟨hnil, hcons⟩ front hfront
    rcases List.prefix_cons_iff.1 hfront with rfl | ⟨others, rfl, hothers⟩
    · exact hnil
    · exact hcons others hothers

theorem matchWithin_cons_iff (depth : Nat) (t : Token) (tokens : List Token) :
    MatchWithin depth (t :: tokens) ↔
      (∀ front, front <+: tokens →
        closings (t :: front) ≤ depth + openings (t :: front)) ∧
      depth + openings (t :: tokens) = closings (t :: tokens) := by
  rw [MatchWithin, forall_prefix_cons_iff]
  exact and_congr_left fun _ => and_iff_right (Nat.zero_le _)

/-- Counting how deep the groups are nested is counting both kinds of parentheses. -/
theorem balanced_iff_matchWithin (depth : Nat) (tokens : List Token) :
    Balanced depth tokens ↔ MatchWithin depth tokens := by
  induction tokens generalizing depth with
  | nil => simp [Balanced, MatchWithin, openings, closings]
  | cons t tokens ih =>
    obtain ⟨kind, offset⟩ := t
    rw [matchWithin_cons_iff]
    cases kind with
    | literal | «variable» | operator =>
      simp only [Balanced, ih, MatchWithin, openings, closings, List.countP_cons, reduceCtorEq,
        decide_false, Bool.false_eq_true, if_false, Nat.add_zero]
    | leftParen =>
      simp only [Balanced, ih, MatchWithin, openings, closings, List.countP_cons, reduceCtorEq,
        decide_false, decide_true, Bool.false_eq_true, if_false, if_true, Nat.add_zero,
        Nat.add_right_comm depth 1, Nat.add_assoc]
    | rightParen =>
      cases depth with
      | zero =>
        refine iff_of_false id fun h => ?_
        have hclosed := h.1 [] List.nil_prefix
        simp [openings, closings] at hclosed
      | succ outer =>
        simp only [Balanced, ih, MatchWithin, openings, closings, List.countP_cons, reduceCtorEq,
          decide_false, decide_true, Bool.false_eq_true, if_false, if_true, Nat.add_zero,
          Nat.add_right_comm outer 1, Nat.add_le_add_iff_right, Nat.add_right_cancel_iff]

-- ════════════════════════════════════════════════════════════════════════
-- What a state holds
-- ════════════════════════════════════════════════════════════════════════

namespace PrefixOrder

/-- An operator that waits, as a token; the boundary of a group is none. -/
def Pending.token? : Pending → Option Token
  | .operator op offset => some ⟨.operator op, offset⟩
  | .group => none

/-- The tokens that a state holds: those that wait and those that are placed. -/
def State.tokens (s : State) : List Token := s.stack.filterMap Pending.token? ++ s.placed

/-- An operator that is placed was held before. -/
theorem State.tokens_operator (op : Operator) (offset : Nat) (stack : List Pending)
    (placed : List Token) :
    (State.tokens ⟨stack, ⟨.operator op, offset⟩ :: placed⟩).Perm
      (State.tokens ⟨.operator op offset :: stack, placed⟩) :=
  List.perm_middle

theorem perm_placePreceding (incoming : Operator) (stack : List Pending) (placed : List Token) :
    (placePreceding incoming stack placed).tokens.Perm (State.tokens ⟨stack, placed⟩) := by
  induction stack generalizing placed with
  | nil => exact .refl _
  | cons p stack ih =>
    cases p with
    | group => exact .refl _
    | operator op offset =>
      simp only [placePreceding]
      split
      · exact (ih _).trans (State.tokens_operator op offset stack placed)
      · exact .refl _

theorem perm_of_placeGroup? {stack : List Pending} {placed : List Token} {s : State}
    (h : placeGroup? stack placed = some s) : s.tokens.Perm (State.tokens ⟨stack, placed⟩) := by
  induction stack generalizing placed with
  | nil => cases h
  | cons p stack ih =>
    cases p with
    | group =>
      cases h
      exact .refl _
    | operator op offset => exact (ih h).trans (State.tokens_operator op offset stack placed)

theorem perm_of_placeAll? {stack : List Pending} {placed ordered : List Token}
    (h : placeAll? stack placed = some ordered) :
    ordered.Perm (State.tokens ⟨stack, placed⟩) := by
  induction stack generalizing placed with
  | nil =>
    cases h
    exact .refl _
  | cons p stack ih =>
    cases p with
    | group => cases h
    | operator op offset => exact (ih h).trans (State.tokens_operator op offset stack placed)

/-- Placing a token adds it to what is held, unless it is a parenthesis. -/
theorem perm_of_place {t : Token} {s s' : State} (h : place t s = some s') :
    s'.tokens.Perm (unparenthesized [t] ++ s.tokens) := by
  obtain ⟨kind, offset⟩ := t
  cases kind with
  | literal | «variable» =>
    cases h
    exact List.perm_middle
  | operator op =>
    cases h
    exact (perm_placePreceding op s.stack s.placed).cons _
  | rightParen =>
    cases h
    exact .refl _
  | leftParen => exact perm_of_placeGroup? h

/-- Placing tokens adds all of them but the parentheses. -/
theorem perm_of_placeFrom? {tokens : List Token} {s s' : State}
    (h : placeFrom? tokens s = some s') :
    s'.tokens.Perm (unparenthesized tokens ++ s.tokens) := by
  induction tokens generalizing s' with
  | nil =>
    cases h
    exact .refl _
  | cons t tokens ih =>
    rw [placeFrom?_cons] at h
    obtain ⟨middle, hmiddle, hplace⟩ := Option.bind_eq_some_iff.1 h
    have hsplit : unparenthesized (t :: tokens) = unparenthesized [t] ++ unparenthesized tokens :=
      List.filter_append [t] tokens
    rw [hsplit, List.append_assoc]
    exact (perm_of_place hplace).trans ((ih hmiddle).append_left _)

end PrefixOrder

open PrefixOrder

/-- What comes out is what went in without the parentheses. -/
theorem perm_of_toPrefix {tokens ordered : List Token} (h : toPrefix tokens = .ok ordered) :
    ordered.Perm (unparenthesized tokens) := by
  obtain ⟨s, hs, hall⟩ := Option.bind_eq_some_iff.1 (toPrefix_eq_ok_iff.1 h)
  have hperm := (perm_of_placeAll? hall).trans (perm_of_placeFrom? hs)
  rwa [State.tokens, List.filterMap_nil, List.append_nil, List.append_nil] at hperm

theorem toPrefix_eq_error_iff_not_ok (tokens : List Token) :
    toPrefix tokens = .error .mismatchedParentheses ↔ ¬ ∃ ordered, toPrefix tokens = .ok ordered := by
  rw [toPrefix_eq_orderFrom?]
  cases orderFrom? tokens {} <;> simp

/-- Tokens are refused exactly if their parentheses do not match. All others come out,
    each once and with its offset, the parentheses aside; and of the literals and
    variables none is moved past another one. -/
theorem toPrefix_keeps_tokens (tokens : List Token) :
    ((∃ ordered, toPrefix tokens = .ok ordered) ↔ ParenthesesMatch tokens) ∧
    (toPrefix tokens = .error .mismatchedParentheses ↔ ¬ ParenthesesMatch tokens) ∧
    ∀ ordered, toPrefix tokens = .ok ordered →
      ordered.Perm (unparenthesized tokens) ∧ (∀ t ∈ ordered, ¬ t.kind.isParenthesis) ∧
        operands ordered = operands tokens := by
  have hok : (∃ ordered, toPrefix tokens = .ok ordered) ↔ ParenthesesMatch tokens := by
    rw [exists_toPrefix_eq_ok_iff, balanced_iff_matchWithin, matchWithin_zero_iff]
  refine ⟨hok, (toPrefix_eq_error_iff_not_ok tokens).trans (not_congr hok), fun ordered h => ?_⟩
  have hperm := perm_of_toPrefix h
  refine ⟨hperm, fun t ht => ?_, operands_of_toPrefix h⟩
  simpa using (List.mem_filter.1 (hperm.subset ht)).2

end

/-- `a * (b || true)` comes out with the group behind the operator before it; `)(` has as many
    parentheses of both kinds and is refused. -/
theorem toPrefix_keeps_tokens_grouped :
    let tokens : List Token := [⟨.variable "a", 0⟩, ⟨.operator (.arithmetic .multiply), 2⟩,
      ⟨.leftParen, 4⟩, ⟨.variable "b", 5⟩, ⟨.operator (.logical .or), 7⟩,
      ⟨.literal (.boolean true), 10⟩, ⟨.rightParen, 14⟩]
    let ordered : List Token := [⟨.operator (.arithmetic .multiply), 2⟩, ⟨.variable "a", 0⟩,
      ⟨.operator (.logical .or), 7⟩, ⟨.variable "b", 5⟩, ⟨.literal (.boolean true), 10⟩]
    let crossed : List Token := [⟨.rightParen, 0⟩, ⟨.leftParen, 1⟩]
    toPrefix tokens = .ok ordered ∧ ParenthesesMatch tokens ∧
      ordered.Perm (unparenthesized tokens) ∧ operands ordered = operands tokens ∧
      toPrefix crossed = .error .mismatchedParentheses ∧ ¬ ParenthesesMatch crossed := by
  intro tokens ordered crossed
  have hordered : toPrefix tokens = .ok ordered := rfl
  have hcrossed : toPrefix crossed = .error .mismatchedParentheses := rfl
  obtain ⟨hmatch, _, hkept⟩ := toPrefix_keeps_tokens tokens
  obtain ⟨hperm, _, hoperands⟩ := hkept ordered hordered
  exact ⟨hordered, hmatch.1 ⟨ordered, hordered⟩, hperm, hoperands, hcrossed,
    (toPrefix_keeps_tokens crossed).2.1.1 hcrossed⟩

end ScalarExpr

import ScalarExpr.Proofs.UnaryRuns
/-!
# Operands in prefix order

Operators are moved when tokens are put in prefix order. Literals and variables are
placed at once and come out in the order in which they stand.

## Main definitions

- `operands` — the literals and variables among tokens
- `variablePaths` — the paths of the variables among tokens

## Main statements

- `operands_of_toPrefix`: the operands come out in order
- `variablePaths_of_toPrefix`: and so do the variables
-/

namespace ScalarExpr

variable [Regex.Engine]

/-- The literals and variables, in their order. -/
def operands (tokens : List Token) : List Token := tokens.filter (·.kind.isOperand)

theorem operands_append (a b : List Token) : operands (a ++ b) = operands a ++ operands b :=
  List.filter_append a b

theorem operands_cons_of_not {t : Token} (ht : t.kind.isOperand = false) (tokens : List Token) :
    operands (t :: tokens) = operands tokens :=
  List.filter_cons_of_neg (by rw [ht]; exact Bool.false_ne_true)

namespace PrefixOrder

-- ════════════════════════════════════════════════════════════════════════
-- What is placed besides operands
-- ════════════════════════════════════════════════════════════════════════

theorem operands_placePreceding (incoming : Operator) (stack : List Pending)
    (placed : List Token) :
    operands (placePreceding incoming stack placed).placed = operands placed := by
  induction stack generalizing placed with
  | nil => rfl
  | cons p stack ih =>
    cases p with
    | group => rfl
    | operator op offset =>
      simp only [placePreceding]
      split
      · exact (ih _).trans (operands_cons_of_not rfl placed)
      · rfl

theorem operands_of_placeGroup? {stack : List Pending} {placed : List Token} {s : State}
    (h : placeGroup? stack placed = some s) : operands s.placed = operands placed := by
  induction stack generalizing placed with
  | nil => cases h
  | cons p stack ih =>
    cases p with
    | group =>
      cases h
      rfl
    | operator op offset => exact (ih h).trans (operands_cons_of_not rfl placed)

theorem operands_of_placeAll? {stack : List Pending} {placed ordered : List Token}
    (h : placeAll? stack placed = some ordered) : operands ordered = operands placed := by
  induction stack generalizing placed with
  | nil =>
    cases h
    rfl
  | cons p stack ih =>
    cases p with
    | group => cases h
    | operator op offset => exact (ih h).trans (operands_cons_of_not rfl placed)

theorem operands_of_place {t : Token} {s s' : State} (h : place t s = some s') :
    operands s'.placed = operands (t :: s.placed) := by
  obtain ⟨kind, offset⟩ := t
  cases kind with
  | literal | «variable» =>
    cases h
    rfl
  | operator op =>
    cases h
    exact (operands_placePreceding op s.stack s.placed).trans (operands_cons_of_not rfl _).symm
  | rightParen =>
    cases h
    exact (operands_cons_of_not rfl _).symm
  | leftParen => exact (operands_of_placeGroup? h).trans (operands_cons_of_not rfl _).symm

/-- Of the operands none is moved past another one. -/
theorem operands_of_placeFrom? {tokens : List Token} {s s' : State}
    (h : placeFrom? tokens s = some s') :
    operands s'.placed = operands tokens ++ operands s.placed := by
  induction tokens generalizing s' with
  | nil =>
    cases h
    rfl
  | cons t tokens ih =>
    rw [placeFrom?_cons] at h
    obtain ⟨middle, hmiddle, hplace⟩ := Option.bind_eq_some_iff.1 h
    have hsplit : operands (t :: tokens) = operands [t] ++ operands tokens :=
      operands_append [t] tokens
    have hplaced : operands (t :: middle.placed) = operands [t] ++ operands middle.placed :=
      operands_append [t] middle.placed
    rw [operands_of_place hplace, hplaced, ih hmiddle, hsplit, List.append_assoc]

end PrefixOrder

open PrefixOrder

/-- Prefix order keeps the operands, with their offsets, in the order of the text. -/
theorem operands_of_toPrefix {tokens ordered : List Token} (h : toPrefix tokens = .ok ordered) :
    operands ordered = operands tokens := by
  rw [toPrefix_eq_ok_iff] at h
  obtain ⟨s, hs, hall⟩ := Option.bind_eq_some_iff.1 h
  rw [operands_of_placeAll? hall, operands_of_placeFrom? hs]
  exact List.append_nil _

-- ════════════════════════════════════════════════════════════════════════
-- Variables
-- ════════════════════════════════════════════════════════════════════════

/-- The path of a variable. -/
def TokenKind.path? : TokenKind → Option String
  | .variable path => some path
  | _ => none

/-- The paths of the variables, as they are written and in their order. -/
def variablePaths (tokens : List Token) : List String := tokens.filterMap (·.kind.path?)

theorem variablePaths_append (a b : List Token) :
    variablePaths (a ++ b) = variablePaths a ++ variablePaths b :=
  List.filterMap_append

theorem variablePaths_operands (tokens : List Token) :
    variablePaths (operands tokens) = variablePaths tokens := by
  induction tokens with
  | nil => rfl
  | cons t tokens ih =>
    obtain ⟨kind, offset⟩ := t
    cases kind with
    | «variable» path => exact congrArg (path :: ·) ih
    | literal | operator | leftParen | rightParen => exact ih

/-- Prefix order keeps the variables in the order of the text. -/
theorem variablePaths_of_toPrefix {tokens ordered : List Token} (h : toPrefix tokens = .ok ordered) :
    variablePaths ordered = variablePaths tokens := by
  rw [← variablePaths_operands ordered, operands_of_toPrefix h, variablePaths_operands]

end ScalarExpr

import ScalarExpr.Proofs.Grammar
import ScalarExpr.Proofs.Reduction
import ScalarExpr.Proofs.Source
import ScalarExpr.Regex.Dialect
/-!
# Sentences and other accepted texts

The prefix order of an expression of the infix grammar is one tree, so every
expression is accepted. The converse fails: nothing but the parentheses is checked
before tokens are put in prefix order, and after that the number of operands alone
decides. Of the texts that come to a value, those are expressions in which every
token stands in its place.

## Main definitions

- `Forest` — tokens that are the preorders of so many trees
- `PrefixOrder.binaries` — the binary operators among those that wait
- `PrefixOrder.groups` — the groups that are open

## Main statements

- `Infix.placeFrom?`: what is placed of a phrase, and what waits
- `Infix.exists_preorder`: the prefix order of an expression is one tree
- `exists_toPrefix_eq_ok_iff`: what can be put in prefix order is balanced
- `infix_iff_inPlace_of_evaluateText`: which texts that have a value are expressions
-/

namespace ScalarExpr

-- ════════════════════════════════════════════════════════════════════════
-- Operators and groups that wait
-- ════════════════════════════════════════════════════════════════════════

namespace PrefixOrder

/-- How many of the operators take two operands. -/
def binaries (ops : List (Operator × Nat)) : Nat := ops.countP fun op => op.1.arity = 2

@[simp] theorem binaries_append (a b : List (Operator × Nat)) :
    binaries (a ++ b) = binaries a + binaries b :=
  List.countP_append

theorem binaries_cons (op : Operator × Nat) (ops : List (Operator × Nat)) :
    binaries (op :: ops) + 1 = binaries ops + op.1.arity := by
  obtain ⟨op, offset⟩ := op
  rw [binaries, List.countP_cons]
  rcases op.unary_or_binary with ⟨op, rfl⟩ | ⟨op, rfl⟩
  · rfl
  · simp only [op.2, decide_true, if_true]
    rfl

theorem binaries_eq_zero {ops : List (Operator × Nat)} (h : ∀ op ∈ ops, ∃ u, op.1 = .unary u) :
    binaries ops = 0 := by
  refine List.countP_eq_zero.2 fun op hop => ?_
  obtain ⟨u, hu⟩ := h op hop
  rw [hu]
  exact Bool.false_ne_true

/-- The number of groups that are open. -/
def groups (stack : List Pending) : Nat := stack.countP (· = .group)

theorem groups_operator (op : Operator) (offset : Nat) (stack : List Pending) :
    groups (.operator op offset :: stack) = groups stack :=
  List.countP_cons_of_neg (by simp)

theorem groups_group (stack : List Pending) : groups (.group :: stack) = groups stack + 1 :=
  List.countP_cons_of_pos (by simp)

end PrefixOrder

section

variable [Regex.Engine]

-- ════════════════════════════════════════════════════════════════════════
-- Trees one after another
-- ════════════════════════════════════════════════════════════════════════

/-- The tokens are the preorders of `n` trees, one after another. -/
inductive Forest : Nat → List Token → Prop where
  | nil : Forest 0 []
  | cons {n : Nat} {tokens : List Token} (t : Tree) (others : Forest n tokens) :
    Forest (n + 1) (t.preorder ++ tokens)

namespace Forest

variable {n : Nat} {tokens : List Token}

theorem single (t : Tree) : Forest 1 t.preorder := by
  simpa only [List.append_nil] using Forest.cons t .nil

theorem exists_preorder (h : Forest 1 tokens) : ∃ t : Tree, tokens = t.preorder := by
  cases h with
  | cons t others =>
    cases others
    exact ⟨t, List.append_nil _⟩

theorem append {m : Nat} {front : List Token} (hfront : Forest m front) (h : Forest n tokens) :
    Forest (m + n) (front ++ tokens) := by
  induction hfront with
  | nil => simpa only [Nat.zero_add, List.nil_append] using h
  | cons t _ ih =>
    rw [List.append_assoc, Nat.add_right_comm]
    exact .cons t ih

/-- An operator makes one tree of as many as it takes operands. -/
theorem operator {op : Operator} (h : Forest (n + op.arity) tokens) (offset : Nat) :
    Forest (n + 1) (⟨.operator op, offset⟩ :: tokens) := by
  rcases op.unary_or_binary with ⟨op, rfl⟩ | ⟨op, rfl⟩
  · cases h with
    | cons x others => exact .cons (.unary op offset x) others
  · rw [op.2] at h
    cases h with
    | cons l others =>
      cases others with
      | cons r others =>
        rw [← List.append_assoc]
        exact .cons (.binary op offset l r) others

end Forest

namespace PrefixOrder

-- ════════════════════════════════════════════════════════════════════════
-- The number of operands
-- ════════════════════════════════════════════════════════════════════════

/-- Each binary operator that is placed makes one tree less. -/
theorem Forest.operatorTokens {n : Nat} {ops : List (Operator × Nat)} {placed : List Token}
    (h : Forest (n + 1 + binaries ops) placed) :
    Forest (n + 1) ((operatorTokens ops).reverse ++ placed) := by
  induction ops generalizing placed with
  | nil => exact h
  | cons op ops ih =>
    have hcount : n + 1 + binaries (op :: ops) = n + binaries ops + op.1.arity := by
      have := binaries_cons op ops
      omega
    rw [hcount] at h
    have hplaced := h.operator op.2
    rw [Nat.add_right_comm] at hplaced
    simpa [PrefixOrder.operatorTokens] using ih hplaced

/-- An operator that comes in over a state in which nothing else may be placed
    splits the operators that wait in those before it and those behind. -/
theorem exists_place_operator_waiting (incoming : Operator) (offset : Nat)
    {stack : List Pending} (hstack : Holds incoming stack) (ops : List (Operator × Nat))
    (placed : List Token) :
    ∃ front back, ops = front ++ back ∧
      place ⟨.operator incoming, offset⟩ ⟨waiting ops ++ stack, placed⟩ =
        some ⟨waiting ((incoming, offset) :: back) ++ stack,
          (operatorTokens front).reverse ++ placed⟩ := by
  induction ops generalizing placed with
  | nil => exact ⟨[], [], rfl, place_operator_of_holds hstack offset placed⟩
  | cons op ops ih =>
    by_cases hop : precedes op.1 incoming = true
    · obtain ⟨front, back, rfl, hplace⟩ := ih (⟨.operator op.1, op.2⟩ :: placed)
      refine ⟨op :: front, back, rfl, ?_⟩
      have hstep : place ⟨.operator incoming, offset⟩
          ⟨waiting (op :: (front ++ back)) ++ stack, placed⟩ =
          place ⟨.operator incoming, offset⟩
            ⟨waiting (front ++ back) ++ stack, ⟨.operator op.1, op.2⟩ :: placed⟩ := by
        simp only [place, waiting, List.map_cons, List.cons_append, placePreceding, hop, if_true]
      rw [hstep, hplace]
      simp [operatorTokens]
    · have hholds : Holds incoming (waiting (op :: ops) ++ stack) := eq_false_of_ne_true hop
      exact ⟨[], op :: ops, rfl, place_operator_of_holds hholds offset placed⟩

end PrefixOrder

open PrefixOrder

/-- Over one tree more than it has binary operators, what waits leaves one tree. -/
theorem exists_toPrefix_eq_preorder {tokens placed : List Token} {ops : List (Operator × Nat)}
    (hplace : PrefixOrder.placeFrom? tokens {} = some ⟨waiting ops ++ [], placed ++ []⟩)
    (hforest : Forest (binaries ops + 1) placed) : ∃ t : Tree, toPrefix tokens = .ok t.preorder := by
  have hone : Forest (0 + 1) ((operatorTokens ops).reverse ++ placed) :=
    Forest.operatorTokens (by rwa [Nat.zero_add, Nat.add_comm])
  obtain ⟨t, ht⟩ := hone.exists_preorder
  refine ⟨t, toPrefix_eq_ok_iff.2 ?_⟩
  rw [orderFrom?, hplace, Option.bind_some, placeAll?_waiting, ← ht]
  exact congrArg some (congrArg _ (List.append_nil placed))

/-- What placing a phrase adds to a state: operators that wait, over a forest with
    one tree more than there are binary operators among them. Of an operand none but
    its unary operators wait. -/
theorem Infix.placeFrom? {phrase : Phrase} {tokens : List Token} (h : Infix phrase tokens)
    (s : State) (hstack : phrase = .expression → ∀ op, Holds op s.stack) :
    ∃ ops placed,
      PrefixOrder.placeFrom? tokens s = some ⟨waiting ops ++ s.stack, placed ++ s.placed⟩ ∧
      Forest (binaries ops + 1) placed ∧
      (phrase ≠ .expression → ∀ op ∈ ops, ∃ u, op.1 = .unary u) := by
  have hnil : ∀ op ∈ ([] : List (Operator × Nat)), ∃ u, op.1 = .unary u :=
    fun op hop => absurd hop List.not_mem_nil
  induction h generalizing s with
  | @leaf x hx =>
    obtain ⟨kind, offset⟩ := x
    cases kind with
    | literal value => exact ⟨[], _, rfl, .single (.literal value offset), fun _ => hnil⟩
    | «variable» path => exact ⟨[], _, rfl, .single (.variable path offset), fun _ => hnil⟩
    | operator | leftParen | rightParen => cases hx
  | @group tokens leftOffset rightOffset _ ih =>
    -- alone, the expression within leaves one tree once what waits is placed
    obtain ⟨ops, placed, hplace, hforest, _⟩ := ih {} fun _ _ => trivial
    obtain ⟨t, hinside⟩ := exists_toPrefix_eq_preorder hplace hforest
    exact ⟨[], t.preorder, placesBlock_grouped hinside leftOffset rightOffset s, .single t,
      fun _ => hnil⟩
  | atom _ ih =>
    obtain ⟨ops, placed, hplace, hforest, hunary⟩ := ih s (by simp)
    exact ⟨ops, placed, hplace, hforest, fun _ => hunary (by simp)⟩
  | @unary tokens op offset _ ih =>
    obtain ⟨ops, placed, hplace, hforest, hunary⟩ := ih s (by simp)
    have hunary := hunary (by simp)
    refine ⟨(.unary op, offset) :: ops, placed, ?_, ?_, fun _ op' hop' => ?_⟩
    · rw [placeFrom?_cons, hplace, Option.bind_some]
      exact place_operator_of_holds (holds_unary op _) offset _
    · exact hforest
    · rcases List.mem_cons.1 hop' with rfl | hop'
      · exact ⟨op, rfl⟩
      · exact hunary op' hop'
  | single _ ih =>
    obtain ⟨ops, placed, hplace, hforest, _⟩ := ih s (by simp)
    exact ⟨ops, placed, hplace, hforest, fun hne => absurd rfl hne⟩
  | @binary left right op offset _ _ ihOperand ihOthers =>
    have hholds := hstack rfl
    obtain ⟨ops, placed, hplace, hforest, _⟩ := ihOthers s fun _ => hholds
    -- the operator places some of what waits, and then waits for one more tree
    obtain ⟨front, back, rfl, hop⟩ :=
      exists_place_operator_waiting op.1 offset (hholds op.1) ops (placed ++ s.placed)
    rw [binaries_append, Nat.add_assoc, Nat.add_comm] at hforest
    have hback := Forest.operatorTokens hforest
    obtain ⟨unaries, operand, hoperand, htree, hunary⟩ := ihOperand
      ⟨waiting ((op.1, offset) :: back) ++ s.stack,
        (operatorTokens front).reverse ++ (placed ++ s.placed)⟩ (by simp)
    refine ⟨unaries ++ (op.1, offset) :: back, operand ++ ((operatorTokens front).reverse ++ placed),
      ?_, ?_, fun hne => absurd rfl hne⟩
    · rw [placeFrom?_append, placeFrom?_cons, hplace, Option.bind_some, hop, Option.bind_some,
        hoperand]
      simp only [waiting_append, List.append_assoc]
    · have hnone := binaries_eq_zero (hunary (by simp))
      have hcons := binaries_cons (op.1, offset) back
      rw [hnone] at htree
      rw [op.2] at hcons
      have hcount : binaries (unaries ++ (op.1, offset) :: back) + 1 =
          0 + 1 + (binaries back + 1) := by
        rw [binaries_append]
        omega
      rw [hcount]
      exact htree.append hback

/-- The prefix order of an expression is one tree. -/
theorem Infix.exists_preorder {tokens : List Token} (h : Infix .expression tokens) :
    ∃ t : Tree, toPrefix tokens = .ok t.preorder := by
  obtain ⟨ops, placed, hplace, hforest, _⟩ := h.placeFrom? {} fun _ _ => trivial
  exact exists_toPrefix_eq_preorder hplace hforest

namespace PrefixOrder

-- ════════════════════════════════════════════════════════════════════════
-- Balanced parentheses
-- ════════════════════════════════════════════════════════════════════════

theorem groups_placePreceding (incoming : Operator) (stack : List Pending)
    (placed : List Token) :
    groups (placePreceding incoming stack placed).stack = groups stack := by
  induction stack generalizing placed with
  | nil => rfl
  | cons p stack ih =>
    cases p with
    | group => rfl
    | operator op offset =>
      simp only [placePreceding]
      split
      · rw [ih, groups_operator]
      · rfl

/-- A group is ended exactly if one is open. -/
theorem exists_placeGroup?_iff (stack : List Pending) (placed : List Token) (outer : Nat) :
    (∃ s, placeGroup? stack placed = some s ∧ groups s.stack = outer) ↔
      groups stack = outer + 1 := by
  induction stack generalizing placed with
  | nil => simp [placeGroup?, groups]
  | cons p stack ih =>
    cases p with
    | group => simp [placeGroup?, groups_group]
    | operator op offset =>
      rw [groups_operator]
      exact ih _

theorem exists_placeAll?_iff (stack : List Pending) (placed : List Token) :
    (∃ ordered, placeAll? stack placed = some ordered) ↔ groups stack = 0 := by
  induction stack generalizing placed with
  | nil => simp [placeAll?, groups]
  | cons p stack ih =>
    cases p with
    | group => simp [placeAll?, groups_group]
    | operator op offset =>
      rw [groups_operator]
      exact ih _

/-- The groups that are open when tokens are placed are those that the tokens close
    without having opened them. -/
theorem balanced_iff_exists_placeFrom? (depth : Nat) (tokens : List Token) :
    Balanced depth tokens ↔ ∃ s, placeFrom? tokens {} = some s ∧ groups s.stack = depth := by
  induction tokens generalizing depth with
  | nil => simp [Balanced, groups, eq_comm]
  | cons t tokens ih =>
    obtain ⟨kind, offset⟩ := t
    simp only [placeFrom?_cons, Option.bind_eq_some_iff, ← exists_and_right, and_assoc]
    rw [exists_comm]
    simp only [exists_and_left]
    cases kind with
    | literal | «variable» => simp [Balanced, ih, place]
    | operator op => simp [Balanced, ih, place, groups_operator, groups_placePreceding]
    | rightParen =>
      cases depth with
      | zero => simp [Balanced, place, groups_group]
      | succ outer => simp [Balanced, ih, place, groups_group]
    | leftParen => simp only [Balanced, ih, place, exists_placeGroup?_iff]

end PrefixOrder

/-- Tokens can be put in prefix order exactly if their parentheses are balanced. -/
theorem exists_toPrefix_eq_ok_iff (tokens : List Token) :
    (∃ ordered, toPrefix tokens = .ok ordered) ↔ Balanced 0 tokens := by
  simp only [toPrefix_eq_ok_iff, orderFrom?, Option.bind_eq_some_iff]
  rw [balanced_iff_exists_placeFrom?]
  constructor
  · rintro ⟨ordered, s, hs, hordered⟩
    exact ⟨s, hs, (exists_placeAll?_iff s.stack s.placed).1 ⟨ordered, hordered⟩⟩
  · rintro ⟨s, hs, hgroups⟩
    obtain ⟨ordered, hordered⟩ := (exists_placeAll?_iff s.stack s.placed).2 hgroups
    exact ⟨ordered, s, hs, hordered⟩

-- ════════════════════════════════════════════════════════════════════════
-- Texts that come to a value
-- ════════════════════════════════════════════════════════════════════════

/-- The prefix order of a text that comes to a value is one tree, which has that
    value. -/
theorem exists_preorder_of_evaluateText {text : String} {resolver : Option Resolver}
    {value : Operand} (h : (evaluateText text { resolver }).result = .ok value) :
    ∃ t : Tree, parse text = .ok t.preorder ∧ (t.value resolver).result = .ok value := by
  rw [evaluateText] at h
  split at h
  · rename_i ordered hordered
    obtain ⟨t, rfl⟩ := exists_preorder_of_evaluate h
    rw [evaluate_preorder] at h
    exact ⟨t, hordered, h⟩
  · cases h

/-- A text that comes to a value is one tree in prefix order, and its parentheses are
    balanced; it is an expression exactly if every token stands in its place. Every
    expression has the value of a tree. -/
theorem infix_iff_inPlace_of_evaluateText {text : String} {tokens : List Token}
    (htokens : ReadAs text tokens) (resolver : Option Resolver) :
    (∀ value, (evaluateText text { resolver }).result = .ok value →
      (∃ t : Tree, parse text = .ok t.preorder ∧ (t.value resolver).result = .ok value) ∧
      Balanced 0 tokens ∧ (Infix .expression tokens ↔ InPlace true tokens)) ∧
    (Infix .expression tokens → ∃ t : Tree, parse text = .ok t.preorder ∧
      evaluateText text { resolver } = t.value resolver) := by
  constructor
  · intro value hvalue
    obtain ⟨t, hparse, ht⟩ := exists_preorder_of_evaluateText hvalue
    have hbalanced : Balanced 0 tokens :=
      (exists_toPrefix_eq_ok_iff tokens).1 ⟨_, htokens.parse_eq.symm.trans hparse⟩
    refine ⟨⟨t, hparse, ht⟩, hbalanced, ?_⟩
    rw [infix_expression_iff, and_iff_left hbalanced]
  · intro hinfix
    obtain ⟨t, ht⟩ := hinfix.exists_preorder
    have hparse := htokens.parse_eq.trans ht
    exact ⟨t, hparse, evaluateText_of_parse_eq hparse resolver⟩

end

theorem infix_iff_inPlace_of_evaluateText_negation :
    let tokens : List Token := [⟨.operator (.unary .minus), 0⟩, ⟨.variable "a", 1⟩,
      ⟨.operator (.logical .or), 2⟩, ⟨.variable "b", 4⟩]
    ReadAs "-a||b" tokens ∧ Infix .expression tokens ∧
      ∃ t : Tree, parse "-a||b" = .ok t.preorder ∧
        ∀ resolver, evaluateText "-a||b" { resolver } = t.value resolver := by
  intro tokens
  have htokens : ReadAs "-a||b" tokens := by
    have hb : Lexer.tokensFrom true 4 "b".toList = .ok [⟨.variable "b", 4⟩] :=
      Lexer.tokensFrom_eq_cons rfl rfl (Lexer.tokensFrom_of_dropWhile_eq_nil rfl)
    have hor : Lexer.tokensFrom false 2 "||b".toList =
        .ok [⟨.operator (.logical .or), 2⟩, ⟨.variable "b", 4⟩] :=
      Lexer.tokensFrom_eq_cons rfl rfl hb
    have ha : Lexer.tokensFrom true 1 "a||b".toList =
        .ok [⟨.variable "a", 1⟩, ⟨.operator (.logical .or), 2⟩, ⟨.variable "b", 4⟩] :=
      Lexer.tokensFrom_eq_cons rfl rfl hor
    exact Lexer.tokensFrom_eq_cons rfl rfl ha
  have hinfix : Infix .expression tokens := infix_expression_iff.2 ⟨by decide, rfl⟩
  obtain ⟨t, hparse, _⟩ := (infix_iff_inPlace_of_evaluateText htokens none).2 hinfix
  refine ⟨htokens, hinfix, t, hparse, fun resolver => ?_⟩
  obtain ⟨t', hparse', hvalue⟩ := (infix_iff_inPlace_of_evaluateText htokens resolver).2 hinfix
  rw [hparse, Except.ok.injEq] at hparse'
  rw [hvalue, Tree.preorder_injective hparse']

/-- An operator behind both of its operands is put before them as any other is, so
    the text comes to a value. -/
theorem evaluateText_operator_last :
    ¬ ∀ (text : String) (resolver : Resolver) (value : Operand),
      (evaluateText text { resolver := some resolver }).result = .ok value →
        ∃ tokens, ReadAs text tokens ∧ Infix .expression tokens := by
  intro h
  have hread : ReadAs "1 2 +" [⟨.literal (.ofInt 1), 0⟩, ⟨.literal (.ofInt 2), 2⟩,
      ⟨.operator (.arithmetic .plus), 4⟩] := by
    have hplus : Lexer.tokensFrom false 3 " +".toList = .ok [⟨.operator (.arithmetic .plus), 4⟩] :=
      Lexer.tokensFrom_eq_cons rfl rfl (Lexer.tokensFrom_of_dropWhile_eq_nil rfl)
    have htwo : Lexer.tokensFrom false 1 " 2 +".toList =
        .ok [⟨.literal (.ofInt 2), 2⟩, ⟨.operator (.arithmetic .plus), 4⟩] :=
      Lexer.tokensFrom_eq_cons rfl rfl hplus
    exact Lexer.tokensFrom_eq_cons rfl rfl htwo
  let t : Tree := .binary ⟨.arithmetic .plus, rfl⟩ 4 (.literal (.ofInt 1) 0) (.literal (.ofInt 2) 2)
  have hparse : parse "1 2 +" = .ok t.preorder := by
    rw [hread.parse_eq]
    rfl
  have hvalue : (t.value (some fun _ => .ok .null)).result = .ok (.ofInt 3) :=
    congrArg Except.ok (by decide +kernel : (Operand.ofInt 1).plus (.ofInt 2) = .ofInt 3)
  obtain ⟨tokens, htokens, hinfix⟩ := h "1 2 +" (fun _ => .ok .null) (.ofInt 3)
    (by rw [evaluateText_of_parse_eq hparse, hvalue])
  rw [ReadAs, hread, Except.ok.injEq] at htokens
  have hplace := hinfix.inPlace
  rw [← htokens] at hplace
  exact absurd hplace (by decide)

end ScalarExpr

import ScalarExpr.Proofs.Placing
import ScalarExpr.Regex.Dialect
/-!
# Trees written in infix order

A tree is written in infix order with parentheses around a child that binds
less tight than its parent, or as tight on the side on which the parent does not
group. More parentheses may stand around any subtree. However a tree is written,
the prefix order of its tokens is its preorder.

## Main definitions

- `Tree.NeedsGroup` — a child that has to stand in parentheses
- `Writing` — the tokens that write a tree

## Main statements

- `Writing.placeFrom?`: the state that a written tree leaves
- `toPrefix_of_writing`: a written tree is put in prefix order as its preorder

## Design notes

The tokens are placed from the right. The operators of a tree that are not in
parentheses may still wait when all its tokens are placed; they bind at least as
tight as its root, so the parent of the tree places all of them if the tree
stands on its right, and none of them places the parent if it stands on its left.
-/

namespace ScalarExpr

section

variable [Regex.Engine]

/-- A child has to stand in parentheses if its operator binds less tight than
    the parent's, or as tight and not on the side on which the parent groups. -/
def Tree.NeedsGroup (child : Tree) (parent : Operator) (side : Associativity) : Prop :=
  ∃ op ∈ child.root?, op.precedence < parent.precedence ∨
    (op.precedence = parent.precedence ∧ parent.associativity ≠ side)

instance (child : Tree) (parent : Operator) (side : Associativity) :
    Decidable (child.NeedsGroup parent side) :=
  decidable_of_iff (child.root?.any fun op => op.precedence < parent.precedence ∨
      (op.precedence = parent.precedence ∧ parent.associativity ≠ side)) (by
    cases hroot : child.root? <;> simp [Tree.NeedsGroup, hroot])

/-- The tokens write a tree in infix order. The flag says whether the whole of it
    stands in parentheses. The operand of a unary operator stands on its right. -/
inductive Writing : Bool → Tree → List Token → Prop where
  | literal (value : Operand) (offset : Nat) :
    Writing false (.literal value offset) [⟨.literal value, offset⟩]
  | variable (path : String) (offset : Nat) :
    Writing false (.variable path offset) [⟨.variable path, offset⟩]
  | unary {grouped : Bool} {x : Tree} {tokens : List Token} (op : UnaryOperator) (offset : Nat)
    (operand : Writing grouped x tokens)
    (group : x.NeedsGroup (.unary op) .right → grouped = true) :
    Writing false (.unary op offset x) (⟨.operator (.unary op), offset⟩ :: tokens)
  | binary {groupedLeft groupedRight : Bool} {l r : Tree} {leftTokens rightTokens : List Token}
    (op : BinaryOperator) (offset : Nat) (left : Writing groupedLeft l leftTokens)
    (right : Writing groupedRight r rightTokens)
    (groupLeft : l.NeedsGroup op.1 .left → groupedLeft = true)
    (groupRight : r.NeedsGroup op.1 .right → groupedRight = true) :
    Writing false (.binary op offset l r) (leftTokens ++ ⟨.operator op.1, offset⟩ :: rightTokens)
  | group {grouped : Bool} {t : Tree} {tokens : List Token} (leftOffset rightOffset : Nat)
    (inside : Writing grouped t tokens) :
    Writing true t (⟨.leftParen, leftOffset⟩ :: tokens ++ [⟨.rightParen, rightOffset⟩])

theorem Tree.NeedsGroup.le_precedence {child : Tree} {parent root : Operator}
    {side : Associativity} (hroot : root ∈ child.root?) (h : ¬ child.NeedsGroup parent side) :
    parent.precedence ≤ root.precedence :=
  Nat.le_of_not_lt fun hlt => h ⟨root, hroot, .inl hlt⟩

theorem Tree.NeedsGroup.associativity_eq {child : Tree} {parent root : Operator}
    {side : Associativity} (hroot : root ∈ child.root?) (h : ¬ child.NeedsGroup parent side)
    (heq : root.precedence = parent.precedence) : parent.associativity = side :=
  Decidable.byContradiction fun hside => h ⟨root, hroot, .inr ⟨heq, hside⟩⟩

/-- The operand of a unary operator stands without parentheses only if it is a
    leaf. -/
theorem Tree.NeedsGroup.not_mem_root?_of_operand {child : Tree} {parent : UnaryOperator}
    {root : Operator} (h : ¬ child.NeedsGroup (.unary parent) .right) : root ∉ child.root? := by
  intro hroot
  have hle := Tree.NeedsGroup.le_precedence hroot h
  have hle' := root.precedence_le
  rw [Operator.precedence_unary] at hle
  exact nomatch Tree.NeedsGroup.associativity_eq hroot h (Nat.le_antisymm hle' hle)

namespace PrefixOrder

/-- What a right child leaves is placed by its parent, if the child may stand
    there without parentheses. -/
theorem precedes_of_not_needsGroup {child : Tree} {parent root op : Operator}
    (hroot : root ∈ child.root?) (h : ¬ child.NeedsGroup parent .right)
    (hle : root.precedence ≤ op.precedence) : precedes op parent = true := by
  have hparent := Tree.NeedsGroup.le_precedence hroot h
  rw [precedes_eq_true_iff]
  rcases Nat.lt_or_eq_of_le (Nat.le_trans hparent hle) with hlt | heq
  · exact .inl hlt
  · exact .inr ⟨heq, Tree.NeedsGroup.associativity_eq hroot h (by omega)⟩

/-- A left child that may stand without parentheses does not place its parent. -/
theorem not_precedes_of_not_needsGroup {child : Tree} {parent root : Operator}
    (hroot : root ∈ child.root?) (h : ¬ child.NeedsGroup parent .left) :
    precedes parent root = false := by
  have hparent := Tree.NeedsGroup.le_precedence hroot h
  rw [← Bool.not_eq_true, precedes_eq_true_iff]
  rintro (hlt | ⟨heq, hright⟩)
  · omega
  · have hleft := Tree.NeedsGroup.associativity_eq hroot h heq
    rw [Operator.associativity_eq_of_precedence_eq heq, hleft] at hright
    exact absurd hright (by decide)

/-- What a written tree leaves: the operators `ops` wait, and once they are placed
    too, the whole tree is. All of them bind at least as tight as the root, and
    none waits if the tree stands in parentheses. -/
structure Leaves (grouped : Bool) (t : Tree) (ops : List (Operator × Nat))
    (placed before : List Token) : Prop where
  preorder : (operatorTokens ops).reverse ++ placed = t.preorder ++ before
  tight : ∀ op ∈ ops, grouped = false ∧ ∃ root ∈ t.root?, root.precedence ≤ op.1.precedence

end PrefixOrder

open PrefixOrder

/-- The state that a written tree leaves, if its root may not place what waits on
    top of the stack. -/
theorem Writing.placeFrom? {grouped : Bool} {t : Tree} {tokens : List Token}
    (h : Writing grouped t tokens) (s : State)
    (hholds : grouped = false → ∀ root ∈ t.root?, Holds root s.stack) :
    ∃ ops placed, PrefixOrder.placeFrom? tokens s = some ⟨waiting ops ++ s.stack, placed⟩ ∧
      Leaves grouped t ops placed s.placed := by
  induction h generalizing s with
  | literal value offset =>
    exact ⟨[], _, rfl, rfl, fun op hop => absurd hop List.not_mem_nil⟩
  | «variable» path offset =>
    exact ⟨[], _, rfl, rfl, fun op hop => absurd hop List.not_mem_nil⟩
  | @unary grouped x tokens op offset _ group ih =>
    have hleaf : grouped = false → ∀ root, root ∉ x.root? := fun hgrouped root hroot =>
      Tree.NeedsGroup.not_mem_root?_of_operand
        (fun hneeds => Bool.false_ne_true (hgrouped.symm.trans (group hneeds))) hroot
    obtain ⟨ops, placed, hplace, hleaves⟩ :=
      ih s fun hgrouped root hroot => absurd hroot (hleaf hgrouped root)
    have hops : ∀ op ∈ ops, False := fun op hop =>
      have ⟨hgrouped, root, hroot, _⟩ := hleaves.tight op hop
      hleaf hgrouped root hroot
    refine ⟨[(.unary op, offset)], (operatorTokens ops).reverse ++ placed, ?_, ?_, ?_⟩
    · rw [placeFrom?_cons, hplace]
      exact place_operator_waiting (fun op hop => absurd hop (hops op)) (holds_unary _ _) _ _
    · rw [hleaves.preorder]
      rfl
    · intro op' hop'
      rw [List.mem_singleton.1 hop']
      exact ⟨rfl, _, rfl, Nat.le_refl _⟩
  | @binary groupedLeft groupedRight l r leftTokens rightTokens op offset _ _ groupLeft groupRight
      ihLeft ihRight =>
    have hholds := hholds rfl op.1 rfl
    have hneedsRight : groupedRight = false → ¬ r.NeedsGroup op.1 .right :=
      fun hgrouped hneeds => Bool.false_ne_true (hgrouped.symm.trans (groupRight hneeds))
    have hneedsLeft : groupedLeft = false → ¬ l.NeedsGroup op.1 .left :=
      fun hgrouped hneeds => Bool.false_ne_true (hgrouped.symm.trans (groupLeft hneeds))
    -- the right operand first, and the operator places what it leaves
    obtain ⟨opsRight, placedRight, hplaceRight, hleavesRight⟩ := ihRight s
      fun hgrouped root hroot =>
        hholds.mono (Tree.NeedsGroup.le_precedence hroot (hneedsRight hgrouped))
    have hprecedes : ∀ op' ∈ opsRight, precedes op'.1 op.1 = true := fun op' hop' =>
      have ⟨hgrouped, root, hroot, hle⟩ := hleavesRight.tight op' hop'
      precedes_of_not_needsGroup hroot (hneedsRight hgrouped) hle
    have hplaceOp := place_operator_waiting hprecedes hholds offset placedRight
    rw [hleavesRight.preorder] at hplaceOp
    -- then the left operand, which leaves the operator where it is
    obtain ⟨opsLeft, placedLeft, hplaceLeft, hleavesLeft⟩ :=
      ihLeft ⟨waiting [(op.1, offset)] ++ s.stack, r.preorder ++ s.placed⟩
        fun hgrouped root hroot => not_precedes_of_not_needsGroup hroot (hneedsLeft hgrouped)
    refine ⟨opsLeft ++ [(op.1, offset)], placedLeft, ?_, ?_, ?_⟩
    · rw [placeFrom?_append, placeFrom?_cons, hplaceRight, Option.bind_some, hplaceOp,
        Option.bind_some, hplaceLeft, waiting_append, List.append_assoc]
    · rw [operatorTokens_append, List.reverse_append, List.append_assoc, hleavesLeft.preorder]
      simp [operatorTokens, Tree.preorder]
    · intro op' hop'
      refine ⟨rfl, op.1, rfl, ?_⟩
      rcases List.mem_append.1 hop' with hop' | hop'
      · obtain ⟨hgrouped, root, hroot, hle⟩ := hleavesLeft.tight op' hop'
        exact Nat.le_trans (Tree.NeedsGroup.le_precedence hroot (hneedsLeft hgrouped)) hle
      · obtain rfl := List.mem_singleton.1 hop'
        exact Nat.le_refl _
  | @group grouped t tokens leftOffset rightOffset _ ih =>
    obtain ⟨ops, placed, hplace, hleaves⟩ :=
      ih ⟨.group :: s.stack, s.placed⟩ fun _ _ _ => trivial
    refine ⟨[], t.preorder ++ s.placed, ?_, rfl, fun op hop => absurd hop List.not_mem_nil⟩
    have hright : place ⟨.rightParen, rightOffset⟩ s = some ⟨.group :: s.stack, s.placed⟩ := rfl
    rw [placeFrom?_append, placeFrom?_cons, placeFrom?_nil, Option.bind_some, hright,
      Option.bind_some, placeFrom?_cons, hplace, Option.bind_some]
    change placeGroup? (waiting ops ++ .group :: s.stack) placed = _
    rw [placeGroup?_waiting, hleaves.preorder]
    rfl

theorem Writing.orderFrom? {grouped : Bool} {t : Tree} {tokens : List Token}
    (h : Writing grouped t tokens) : PrefixOrder.orderFrom? tokens {} = some t.preorder := by
  obtain ⟨ops, placed, hplace, hleaves⟩ := h.placeFrom? {} fun _ _ _ => trivial
  rw [PrefixOrder.orderFrom?, hplace, Option.bind_some, placeAll?_waiting, hleaves.preorder,
    List.append_nil]
  rfl

/-- A tree that is written in infix order, with the parentheses that it needs and
    any others around its subtrees, is put in prefix order as its preorder. -/
theorem toPrefix_of_writing {grouped : Bool} {t : Tree} {tokens : List Token}
    (h : Writing grouped t tokens) : toPrefix tokens = .ok t.preorder :=
  toPrefix_eq_ok_iff.2 h.orderFrom?

end

theorem toPrefix_of_writing_powers :
    toPrefix [⟨.variable "a", 0⟩, ⟨.operator (.arithmetic .minus), 2⟩, ⟨.leftParen, 4⟩,
        ⟨.variable "b", 5⟩, ⟨.operator (.arithmetic .minus), 7⟩, ⟨.variable "c", 9⟩,
        ⟨.rightParen, 10⟩, ⟨.operator (.arithmetic .power), 12⟩, ⟨.literal .null, 15⟩,
        ⟨.operator (.arithmetic .power), 20⟩, ⟨.variable "d", 23⟩] =
      .ok [⟨.operator (.arithmetic .minus), 2⟩, ⟨.variable "a", 0⟩,
        ⟨.operator (.arithmetic .power), 12⟩, ⟨.operator (.arithmetic .minus), 7⟩,
        ⟨.variable "b", 5⟩, ⟨.variable "c", 9⟩, ⟨.operator (.arithmetic .power), 20⟩,
        ⟨.literal .null, 15⟩, ⟨.variable "d", 23⟩] := by
  have hdifference := Writing.binary ⟨.arithmetic .minus, rfl⟩ 7 (.variable "b" 5)
    (.variable "c" 9) (by decide) (by decide)
  have hpower := Writing.binary ⟨.arithmetic .power, rfl⟩ 20 (.literal .null 15)
    (.variable "d" 23) (by decide) (by decide)
  have hpowers := Writing.binary ⟨.arithmetic .power, rfl⟩ 12 (.group 4 10 hdifference) hpower
    (by decide) (by decide)
  exact toPrefix_of_writing
    (.binary ⟨.arithmetic .minus, rfl⟩ 2 (.variable "a" 0) hpowers (by decide) (by decide))

end ScalarExpr

import ScalarExpr.Proofs.Reduction
import ScalarExpr.Regex.Dialect
/-!
# Passing over is evaluating without the values

The right operand of a logical operator is passed over if the left one decides, and
evaluated if it does not. Both stop at the same token, behind the one tree at the head
of the tokens, so nothing that comes later depends on what the left operand was.

## Main definitions

- `Resolver.Total` — every path has a value

## Main statements

- `Tree.exists_value`: a tree has a value if every path has one
- `Evaluator.skip_of_reduceHead`, `Evaluator.exists_reduceHead_of_skip`: what has a value
  is passed over, and the other way round
- `Evaluator.reduce_skip`: evaluation and passing over stop at the same place
-/

namespace ScalarExpr

section

variable [Regex.Engine]

/-- The resolver answers every path. -/
def Resolver.Total (resolver : Resolver) : Prop := ∀ path, ∃ value, resolver path = .ok value

theorem Tree.preorder_ne_nil (t : Tree) : t.preorder ≠ [] := by
  cases t with
  | literal | «variable» | unary | binary => exact List.cons_ne_nil _ _

/-- The operators have a value at all operands, so a tree has one if its variables do. -/
theorem Tree.exists_value {resolver : Resolver} (h : resolver.Total) (t : Tree) :
    ∃ value, (t.value (some resolver)).result = .ok value := by
  induction t with
  | literal value offset => exact ⟨value, rfl⟩
  | «variable» path offset => exact h path
  | unary op offset x ih =>
    obtain ⟨operand, hoperand⟩ := ih
    rw [value_unary, Run.bind_of_ok hoperand]
    exact ⟨_, rfl⟩
  | binary op offset l r ihl ihr =>
    obtain ⟨left, hleft⟩ := ihl
    obtain ⟨right, hright⟩ := ihr
    by_cases hop : ∃ logical, op.1 = .logical logical
    · obtain ⟨logical, hop⟩ := hop
      rw [value_logical _ hop, Run.bind_of_ok hleft]
      by_cases hdecides : logical.decides left
      · exact ⟨left, by rw [if_pos hdecides]; rfl⟩
      · exact ⟨right, by rw [if_neg hdecides]; exact hright⟩
    · have hop : ∀ logical, op.1 ≠ .logical logical := fun logical h => hop ⟨logical, h⟩
      obtain ⟨value, hvalue⟩ := op.exists_combine_eq left right
      rw [Operator.combine_of_ne_logical hop] at hvalue
      rw [value_binary _ hop, Run.bind_of_ok hleft, Run.bind_of_ok hright, hvalue]
      exact ⟨value, rfl⟩

namespace Evaluator

variable {context : Context} {depth : Nat} {tokens rest : List Token}

theorem skip_of_reduceHead {head : Operand × List Token}
    (h : (reduceHead context depth tokens).result = .ok head) : skip 1 tokens = .ok head.2 :=
  skip_one_eq_ok_iff.2 (exists_preorder_of_reduceHead h)

/-- What is passed over has a value, if every variable has one and nothing limits how deep
    it is nested. -/
theorem exists_reduceHead_of_skip {resolver : Resolver} (hresolver : resolver.Total)
    (h : skip 1 tokens = .ok rest) (depth : Nat) :
    ∃ value, (reduceHead { resolver := some resolver } depth tokens).result = .ok (value, rest) := by
  obtain ⟨t, rfl⟩ := skip_one_eq_ok_iff.1 h
  obtain ⟨value, hvalue⟩ := t.exists_value hresolver
  rw [reduceHead_preorder rfl, Run.bind_of_ok hvalue]
  exact ⟨value, rfl⟩

/-- A logical expression ends where its right operand does. -/
theorem skip_operator_preorder (op : BinaryOperator) (offset : Nat) (left : Tree)
    (tokens : List Token) :
    skip 1 (⟨.operator op.1, offset⟩ :: (left.preorder ++ tokens)) = skip 1 tokens := by
  have hskip : skip 1 (⟨.operator op.1, offset⟩ :: (left.preorder ++ tokens)) =
      skip 2 (left.preorder ++ tokens) := by simp only [skip, op.2]
  rw [hskip, skip_preorder left 1]

-- ════════════════════════════════════════════════════════════════════════
-- Cursors
-- ════════════════════════════════════════════════════════════════════════

theorem result_reduceHead {reduced : Reduced tokens.length}
    (h : (reduce context depth tokens).result = .ok reduced) :
    (reduceHead context depth tokens).result = .ok (reduced.value, reduced.rest) := by
  rw [reduceHead, Run.bind_of_ok h]
  rfl

theorem exists_reduced_of_reduceHead {head : Operand × List Token}
    (h : (reduceHead context depth tokens).result = .ok head) :
    ∃ reduced, (reduce context depth tokens).result = .ok reduced ∧ reduced.rest = head.2 := by
  obtain ⟨reduced, hreduced, hpure⟩ := Run.result_bind_eq_ok_iff.1 h
  cases hpure
  exact ⟨reduced, hreduced, rfl⟩

/-- Behind a tree the cursor stands later. -/
theorem exists_cursor {p : Nat} (h : skip 1 (tokens.drop p) = .ok rest) :
    ∃ q, p < q ∧ q ≤ tokens.length ∧ rest = tokens.drop q := by
  obtain ⟨t, ht⟩ := skip_one_eq_ok_iff.1 h
  have hpositive : 0 < t.preorder.length := List.length_pos_iff.2 t.preorder_ne_nil
  have hlength := congrArg List.length ht
  rw [List.length_drop, List.length_append] at hlength
  refine ⟨p + t.preorder.length, by omega, by omega, ?_⟩
  rw [← List.drop_drop, ht, List.drop_left]

/-- Evaluation and passing over stop at the same place. What has a value from some token
    on, with any resolver and at any depth, is passed over up to the same token; what is
    passed over has a value and ends there, if the resolver answers every path and nothing
    limits how deep it is nested; and `a && b` and `a || b` end where `b` ends, whatever
    `a` is and comes to. -/
theorem reduce_skip (tokens : List Token) (p : Nat) :
    (∀ context depth reduced, (reduce context depth (tokens.drop p)).result = .ok reduced →
      ∃ q, p < q ∧ q ≤ tokens.length ∧ reduced.rest = tokens.drop q ∧
        skip 1 (tokens.drop p) = .ok (tokens.drop q)) ∧
    (∀ rest, skip 1 (tokens.drop p) = .ok rest →
      ∃ q, p < q ∧ q ≤ tokens.length ∧ rest = tokens.drop q ∧
        ∀ resolver : Resolver, resolver.Total → ∀ depth, ∃ reduced,
          (reduce { resolver := some resolver } depth (tokens.drop p)).result = .ok reduced ∧
          reduced.rest = tokens.drop q) ∧
    ∀ (op : LogicalOperator) (offset : Nat) (a : Tree) (context : Context) (depth : Nat) reduced,
      (reduce context depth
        (⟨.operator (.logical op), offset⟩ :: (a.preorder ++ tokens.drop p))).result = .ok reduced →
      skip 1 (tokens.drop p) = .ok reduced.rest := by
  refine ⟨fun context depth reduced h => ?_, fun rest h => ?_,
    fun op offset a context depth reduced h => ?_⟩
  · have hskip := skip_of_reduceHead (result_reduceHead h)
    obtain ⟨q, hpq, hq, hrest⟩ := exists_cursor hskip
    exact ⟨q, hpq, hq, hrest, hrest ▸ hskip⟩
  · obtain ⟨q, hpq, hq, rfl⟩ := exists_cursor h
    refine ⟨q, hpq, hq, rfl, fun resolver hresolver depth => ?_⟩
    obtain ⟨value, hvalue⟩ := exists_reduceHead_of_skip hresolver h depth
    exact exists_reduced_of_reduceHead hvalue
  · rw [← skip_operator_preorder ⟨.logical op, rfl⟩ offset a]
    exact skip_of_reduceHead (result_reduceHead h)

end Evaluator

end

namespace Evaluator

/-- `a && (b || c)` ends before `d`, whether `a` decides or not. -/
theorem reduce_skip_within_conjunction :
    let d : Token := ⟨.variable "d", 14⟩
    let tokens : List Token :=
      [⟨.operator (.logical .and), 2⟩, ⟨.variable "a", 0⟩, ⟨.operator (.logical .or), 8⟩,
       ⟨.variable "b", 6⟩, ⟨.variable "c", 11⟩, d]
    skip 1 tokens = .ok [d] ∧
      (∃ reduced, (reduce { resolver := some fun _ => .ok (.boolean false) } 0 tokens).result =
        .ok reduced ∧ reduced.rest = [d]) ∧
      ∃ reduced, (reduce { resolver := some fun _ => .ok (.boolean true) } 0 tokens).result =
        .ok reduced ∧ reduced.rest = [d] := by
  intro d tokens
  have hskip : skip 1 tokens = .ok [d] := rfl
  obtain ⟨q, _, _, hq, hreduce⟩ := (reduce_skip tokens 0).2.1 [d] hskip
  refine ⟨hskip, ?_⟩
  rw [hq]
  exact ⟨hreduce _ (fun _ => ⟨.boolean false, rfl⟩) 0, hreduce _ (fun _ => ⟨.boolean true, rfl⟩) 0⟩

end Evaluator

end ScalarExpr

import ScalarExpr.Proofs.Reduction
import ScalarExpr.Regex.Dialect
/-!
# The limit on nesting

A limit lets evaluation come to operators that stand within fewer operators than
it allows, and stops at the first one that does not. It has no other effect: the
evaluation goes on as it would without a limit up to there, or to its end.

## Main definitions

- `Run.StopsIf` — a run that is another one, or stops on the way of it
- `Evaluator.Enters` — evaluation comes to an operator within so many others
- `Tree.nesting` — how many levels of operators the evaluation of a tree comes to

## Main statements

- `Evaluator.stopsIf_reduceHead`: where a limit stops an evaluation
- `Evaluator.enters_preorder_iff`: the operators of a tree that are come to
- `evaluate_within_limit`: what a limit does
-/

namespace ScalarExpr

namespace Run

variable {α β : Type} {e : Error} {stops stops' : Prop} {r s : Run α}

/-- The run stops with an error on the way of another run if the condition holds,
    and is the other run if it does not. -/
structure StopsIf (e : Error) (stops : Prop) (r s : Run α) : Prop where
  result_eq : stops → r.result = .error e
  calls_within : stops → r.calls <+: s.calls
  eq_of_not : ¬ stops → r = s

namespace StopsIf

theorem of_not (h : ¬ stops) (e : Error) (r : Run α) : StopsIf e stops r r :=
  ⟨fun hstops => absurd hstops h, fun hstops => absurd hstops h, fun _ => rfl⟩

theorem congr (h : StopsIf e stops r s) (hiff : stops ↔ stops') : StopsIf e stops' r s :=
  ⟨fun hstops => h.result_eq (hiff.2 hstops), fun hstops => h.calls_within (hiff.2 hstops),
    fun hgoes => h.eq_of_not fun hstops => hgoes (hiff.1 hstops)⟩

/-- A run of two parts stops if its first part does, or its second one at the value
    that the first one comes to. -/
theorem bind {next next' : α → Run β} {stopsAt : α → Prop} (h : StopsIf e stops r s)
    (hnext : ∀ a, s.result = .ok a → StopsIf e (stopsAt a) (next a) (next' a)) :
    StopsIf e (stops ∨ ∃ a, s.result = .ok a ∧ stopsAt a) (r >>= next) (s >>= next') := by
  by_cases hstops : stops
  · have hr := bind_of_error (h.result_eq hstops) next
    have hcalls := (h.calls_within hstops).trans (s.calls_prefix_bind next')
    rw [hr]
    exact ⟨fun _ => rfl, fun _ => hcalls, fun hgoes => absurd (.inl hstops) hgoes⟩
  · obtain rfl := h.eq_of_not hstops
    cases hr : r.result with
    | error e' =>
      rw [bind_of_error hr, bind_of_error hr]
      refine of_not ?_ e _
      rintro (hstops' | ⟨_, ha, _⟩)
      · exact hstops hstops'
      · cases ha
    | ok a =>
      have hnext := hnext a hr
      rw [bind_of_ok hr, bind_of_ok hr]
      have hiff : (stops ∨ ∃ a', (Except.ok a : Except Error α) = .ok a' ∧ stopsAt a') ↔
          stopsAt a := by simp [hstops]
      rw [hiff]
      refine ⟨hnext.result_eq, fun hstops' => ?_, fun hgoes => ?_⟩
      · exact (List.prefix_append_right_inj _).2 (hnext.calls_within hstops')
      · rw [hnext.eq_of_not hgoes]

/-- What follows a run does not stop it. -/
theorem bind_never (h : StopsIf e stops r s) (next : α → Run β) :
    StopsIf e stops (r >>= next) (s >>= next) :=
  (h.bind fun a _ => of_not not_false e (next a)).congr (by simp)

end StopsIf

end Run

section

variable [Regex.Engine]

namespace TokenKind

/-- An operator. -/
def isOperator : TokenKind → Bool
  | .operator _ => true
  | .literal _ | .variable _ | .leftParen | .rightParen => false

end TokenKind

namespace Evaluator

-- ════════════════════════════════════════════════════════════════════════
-- The operators that are come to
-- ════════════════════════════════════════════════════════════════════════

variable {resolver : Option Resolver} {offset k n : Nat} {rest : List Token}

/-- Without a limit, the evaluation of the expression at the head of the tokens comes
    to an operator that stands within `k` operators of that expression. The right
    operand of a binary operator is come to if the left one has a value that does not
    decide. -/
inductive Enters (resolver : Option Resolver) : List Token → Nat → Prop where
  | head (op : Operator) (offset : Nat) (rest : List Token) :
    Enters resolver (⟨.operator op, offset⟩ :: rest) 0
  | first {k : Nat} {rest : List Token} (op : Operator) (offset : Nat)
    (h : Enters resolver rest k) : Enters resolver (⟨.operator op, offset⟩ :: rest) (k + 1)
  | second {op : Operator} {k : Nat} {rest : List Token} {left : Operand × List Token}
    (harity : op.arity = 2) (offset : Nat)
    (hleft : (reduceHead { resolver } 0 rest).result = .ok left)
    (hop : op.decidedBy left.1 = false) (h : Enters resolver left.2 k) :
    Enters resolver (⟨.operator op, offset⟩ :: rest) (k + 1)

theorem not_enters_cons {kind : TokenKind} (hkind : kind.isOperator = false) :
    ¬ Enters resolver (⟨kind, offset⟩ :: rest) k := by
  intro h
  cases h <;> cases hkind

theorem enters_unary_iff (op : UnaryOperator) :
    Enters resolver (⟨.operator (.unary op), offset⟩ :: rest) k ↔
      k = 0 ∨ ∃ j, k = j + 1 ∧ Enters resolver rest j := by
  constructor
  · intro h
    cases h with
    | head => exact .inl rfl
    | first _ _ h => exact .inr ⟨_, rfl, h⟩
    | second harity => cases harity
  · rintro (rfl | ⟨j, rfl, h⟩)
    · exact .head _ offset rest
    · exact h.first _ offset

theorem enters_operands_iff (op : BinaryOperator) :
    Enters resolver (⟨.operator op.1, offset⟩ :: rest) k ↔
      k = 0 ∨ ∃ j, k = j + 1 ∧ (Enters resolver rest j ∨
        ∃ left, (reduceHead { resolver } 0 rest).result = .ok left ∧
          op.1.decidedBy left.1 = false ∧ Enters resolver left.2 j) := by
  constructor
  · intro h
    cases h with
    | head => exact .inl rfl
    | first _ _ h => exact .inr ⟨_, rfl, .inl h⟩
    | second _ _ hleft hop h => exact .inr ⟨_, rfl, .inr ⟨_, hleft, hop, h⟩⟩
  · rintro (rfl | ⟨j, rfl, h | ⟨left, hleft, hop, h⟩⟩)
    · exact .head _ offset rest
    · exact h.first _ offset
    · exact .second op.2 offset hleft hop h

/-- An operator stands within fewer operators than there are. -/
theorem Enters.lt_countP {tokens : List Token} (h : Enters resolver tokens k) :
    k < tokens.countP (·.kind.isOperator) := by
  induction h with
  | head => exact List.countP_pos_iff.2 ⟨_, List.mem_cons_self, rfl⟩
  | first op offset _ ih =>
    rw [List.countP_cons_of_pos rfl]
    omega
  | @second op k rest left _ offset hleft _ _ ih =>
    obtain ⟨t, hrest⟩ := exists_preorder_of_reduceHead hleft
    rw [List.countP_cons_of_pos rfl, hrest, List.countP_append]
    omega

-- ════════════════════════════════════════════════════════════════════════
-- Where a limit stops an evaluation
-- ════════════════════════════════════════════════════════════════════════

/-- Evaluation of an expression within `depth` operators comes to an operator within
    `n` operators or more. -/
def Exceeds (resolver : Option Resolver) (n depth : Nat) (tokens : List Token) : Prop :=
  ∃ k, n ≤ depth + k ∧ Enters resolver tokens k

variable {depth : Nat}

theorem not_exceeds_cons {kind : TokenKind} (hkind : kind.isOperator = false) :
    ¬ Exceeds resolver n depth (⟨kind, offset⟩ :: rest) :=
  fun ⟨_, _, h⟩ => not_enters_cons hkind h

theorem exceeds_unary_iff (op : UnaryOperator) :
    Exceeds resolver n depth (⟨.operator (.unary op), offset⟩ :: rest) ↔
      n ≤ depth ∨ Exceeds resolver n (depth + 1) rest := by
  simp only [Exceeds, enters_unary_iff]
  constructor
  · rintro ⟨_, hn, rfl | ⟨j, rfl, h⟩⟩
    · exact .inl hn
    · exact .inr ⟨j, by omega, h⟩
  · rintro (hn | ⟨j, hn, h⟩)
    · exact ⟨0, hn, .inl rfl⟩
    · exact ⟨j + 1, by omega, .inr ⟨j, rfl, h⟩⟩

theorem exceeds_operands_iff (op : BinaryOperator) :
    Exceeds resolver n depth (⟨.operator op.1, offset⟩ :: rest) ↔
      n ≤ depth ∨ Exceeds resolver n (depth + 1) rest ∨
        ∃ left, (reduceHead { resolver } 0 rest).result = .ok left ∧
          op.1.decidedBy left.1 = false ∧ Exceeds resolver n (depth + 1) left.2 := by
  simp only [Exceeds, enters_operands_iff]
  constructor
  · rintro ⟨_, hn, rfl | ⟨j, rfl, h | ⟨left, hleft, hop, h⟩⟩⟩
    · exact .inl hn
    · exact .inr (.inl ⟨j, by omega, h⟩)
    · exact .inr (.inr ⟨left, hleft, hop, j, by omega, h⟩)
  · rintro (hn | ⟨j, hn, h⟩ | ⟨left, hleft, hop, j, hn, h⟩)
    · exact ⟨0, hn, .inl rfl⟩
    · exact ⟨j + 1, by omega, .inr ⟨j, rfl, .inl h⟩⟩
    · exact ⟨j + 1, by omega, .inr ⟨j, rfl, .inr ⟨left, hleft, hop, h⟩⟩⟩

theorem stopsIf_enter (resolver : Option Resolver) (n depth : Nat) :
    (enter { resolver, limit := some n } depth).StopsIf (.tooDeep n) (n ≤ depth)
      (enter { resolver } depth) := by
  by_cases h : n ≤ depth
  · have henter : enter { resolver, limit := some n } depth = .fail (.tooDeep n) := if_pos h
    rw [henter]
    exact ⟨fun _ => rfl, fun _ => List.nil_prefix, fun hlt => absurd h hlt⟩
  · have henter : enter { resolver, limit := some n } depth = pure () := if_neg h
    rw [henter]
    exact .of_not h _ _

theorem stopsIf_enter_bind {α : Type} {next next' : Unit → Run α} {stops : Prop}
    (h : (next ()).StopsIf (.tooDeep n) stops (next' ())) :
    (enter { resolver, limit := some n } depth >>= next).StopsIf (.tooDeep n) (n ≤ depth ∨ stops)
      (enter { resolver } depth >>= next') := by
  have hresult : (enter { resolver } depth).result = .ok () := rfl
  refine ((stopsIf_enter resolver n depth).bind fun _ _ => h).congr ?_
  simp [hresult]

theorem stopsIf_reduceRight {op : BinaryOperator} {left : Operand × List Token} {stops : Prop}
    (h : (reduceHead { resolver, limit := some n } depth left.2).StopsIf (.tooDeep n) stops
      (reduceHead { resolver } depth left.2)) :
    (reduceRight { resolver, limit := some n } depth op left).StopsIf (.tooDeep n)
      (op.1.decidedBy left.1 = false ∧ stops) (reduceRight { resolver } depth op left) := by
  unfold reduceRight
  split
  · rename_i hdecided
    exact .of_not (by simp [hdecided]) _ _
  · rename_i hdecided
    exact (h.bind_never _).congr (by simp [hdecided])

/-- A limit stops the evaluation if it comes to an operator within so many others,
    and has no effect if it does not. -/
theorem stopsIf_reduceHead (resolver : Option Resolver) (n depth : Nat) (tokens : List Token) :
    (reduceHead { resolver, limit := some n } depth tokens).StopsIf (.tooDeep n)
      (Exceeds resolver n depth tokens) (reduceHead { resolver } depth tokens) := by
  induction tokens using headInduction generalizing depth with
  | nil =>
    rw [reduceHead_nil, reduceHead_nil]
    exact .of_not (fun ⟨_, _, h⟩ => nomatch h) _ _
  | literal =>
    rw [reduceHead_literal, reduceHead_literal]
    exact .of_not (not_exceeds_cons rfl) _ _
  | «variable» =>
    rw [reduceHead_variable, reduceHead_variable]
    exact .of_not (not_exceeds_cons rfl) _ _
  | parenthesis kind _ _ hkind =>
    rw [reduceHead_parenthesis hkind, reduceHead_parenthesis hkind]
    have hoperator : kind.isOperator = false := by rcases hkind with rfl | rfl <;> rfl
    exact .of_not (not_exceeds_cons hoperator) _ _
  | unary op offset rest ih =>
    rw [reduceHead_unary, reduceHead_unary, exceeds_unary_iff]
    exact stopsIf_enter_bind ((ih (depth + 1)).bind_never _)
  | binary op offset rest ih =>
    rw [reduceHead_operands, reduceHead_operands, exceeds_operands_iff,
      ← reduceHead_eq_of_limit_eq_none rfl (depth + 1) rest]
    exact stopsIf_enter_bind ((ih rest (Nat.le_refl _) (depth + 1)).bind fun left hleft =>
      stopsIf_reduceRight (ih left.2 (length_rest_le hleft) (depth + 1)))

end Evaluator

-- ════════════════════════════════════════════════════════════════════════
-- Levels of a tree
-- ════════════════════════════════════════════════════════════════════════

/-- The number of levels of operators that the evaluation of a tree comes to. The
    right operand of a binary operator has a part in it if the left one has a value
    that does not decide; of both operands the deeper one counts. -/
def Tree.nesting (resolver : Option Resolver) : Tree → Nat
  | .literal _ _ | .variable _ _ => 0
  | .unary _ _ operand => operand.nesting resolver + 1
  | .binary op _ left right =>
    match (left.value resolver).result with
    | .ok l =>
      if op.1.decidedBy l then left.nesting resolver + 1
      else max (left.nesting resolver) (right.nesting resolver) + 1
    | .error _ => left.nesting resolver + 1

theorem Tree.lt_nesting_binary_iff {resolver : Option Resolver} {op : BinaryOperator}
    {offset k : Nat} {left right : Tree} :
    k < (binary op offset left right).nesting resolver ↔
      k = 0 ∨ ∃ j, k = j + 1 ∧ (j < left.nesting resolver ∨
        ∃ l, (left.value resolver).result = .ok l ∧ op.1.decidedBy l = false ∧
          j < right.nesting resolver) := by
  cases k with
  | zero =>
    refine iff_of_true ?_ (.inl rfl)
    rw [nesting]
    split
    · split <;> exact Nat.succ_pos _
    · exact Nat.succ_pos _
  | succ k =>
    cases hl : (left.value resolver).result with
    | error e => simp [nesting, hl]
    | ok l =>
      have hmax : k < max (left.nesting resolver) (right.nesting resolver) ↔
          k < left.nesting resolver ∨ k < right.nesting resolver := by omega
      cases hop : op.1.decidedBy l with
      | true => simp [nesting, hl, hop]
      | false =>
        have hnesting : (binary op offset left right).nesting resolver =
            max (left.nesting resolver) (right.nesting resolver) + 1 := by
          simp [nesting, hl, hop]
        rw [hnesting, Nat.succ_lt_succ_iff, hmax]
        simp [hop]

namespace Evaluator

variable {resolver : Option Resolver} {k n : Nat}

theorem reduceHead_preorder_eq_ok_iff {t : Tree} {rest : List Token}
    {head : Operand × List Token} :
    (reduceHead { resolver } 0 (t.preorder ++ rest)).result = .ok head ↔
      (t.value resolver).result = .ok head.1 ∧ rest = head.2 := by
  rw [reduceHead_preorder rfl, Run.result_bind_eq_ok_iff]
  constructor
  · rintro ⟨value, hvalue, hpure⟩
    cases hpure
    exact ⟨hvalue, rfl⟩
  · rintro ⟨hvalue, rfl⟩
    exact ⟨head.1, hvalue, rfl⟩

/-- The evaluation of a tree comes to an operator on each of its levels. -/
theorem enters_preorder_iff (t : Tree) (rest : List Token) :
    Enters resolver (t.preorder ++ rest) k ↔ k < t.nesting resolver := by
  induction t generalizing k rest with
  | literal | «variable» =>
    rw [Tree.preorder, List.singleton_append, Tree.nesting]
    exact iff_of_false (not_enters_cons rfl) (Nat.not_lt_zero k)
  | unary op offset operand ih =>
    rw [Tree.preorder, List.cons_append, enters_unary_iff, Tree.nesting]
    simp only [ih]
    cases k <;> simp
  | binary op offset left right ihl ihr =>
    rw [Tree.preorder, List.cons_append, List.append_assoc, enters_operands_iff,
      Tree.lt_nesting_binary_iff]
    refine or_congr_right (exists_congr fun j => and_congr_right fun _ => ?_)
    refine or_congr (ihl _) ⟨?_, ?_⟩
    · rintro ⟨head, hhead, hop, h⟩
      obtain ⟨hl, hrest⟩ := reduceHead_preorder_eq_ok_iff.1 hhead
      rw [← hrest] at h
      exact ⟨head.1, hl, hop, (ihr rest).1 h⟩
    · rintro ⟨l, hl, hop, h⟩
      exact ⟨(l, right.preorder ++ rest), reduceHead_preorder_eq_ok_iff.2 ⟨hl, rfl⟩, hop,
        (ihr rest).2 h⟩

end Evaluator

-- ════════════════════════════════════════════════════════════════════════
-- Tokens that form one expression
-- ════════════════════════════════════════════════════════════════════════

theorem stopsIf_evaluate (resolver : Option Resolver) (n : Nat) (tokens : List Token) :
    (evaluate tokens { resolver, limit := some n }).StopsIf (.tooDeep n)
      (∃ k, n ≤ k ∧ Evaluator.Enters resolver tokens k) (evaluate tokens { resolver }) := by
  rw [evaluate_eq_reduceHead, evaluate_eq_reduceHead]
  refine ((Evaluator.stopsIf_reduceHead resolver n 0 tokens).bind_never _).congr ?_
  simp only [Evaluator.Exceeds, Nat.zero_add]

/-- Without a limit, only the resolver can fail as a limit does. -/
theorem evaluate_ne_tooDeep {resolver : Option Resolver}
    (hresolver : ∀ r ∈ resolver, ∀ path limit, r path ≠ .error (.tooDeep limit))
    (tokens : List Token) (n : Nat) :
    (evaluate tokens { resolver }).result ≠ .error (.tooDeep n) := by
  intro h
  cases cause_of_evaluate h with
  | resolver hsome hpath => exact hresolver _ hsome _ n hpath
  | tooDeep hlimit => cases hlimit

/-- An evaluation with a limit comes to what it comes to without one, or fails for the
    limit after some of the same calls. It fails exactly if the evaluation without a
    limit comes to an operator that stands within as many others or more; so what a
    greater limit allows is the same, as many levels as there are operators always
    suffice, and of a tree, whatever is behind it, those levels count that its
    evaluation comes to. -/
theorem evaluate_within_limit (resolver : Option Resolver)
    (hresolver : ∀ r ∈ resolver, ∀ path limit, r path ≠ .error (.tooDeep limit))
    (tokens : List Token) (n : Nat) :
    (evaluate tokens { resolver, limit := some n } = evaluate tokens { resolver } ∨
      (evaluate tokens { resolver, limit := some n }).result = .error (.tooDeep n) ∧
        (evaluate tokens { resolver, limit := some n }).calls <+:
          (evaluate tokens { resolver }).calls) ∧
    ((evaluate tokens { resolver, limit := some n }).result = .error (.tooDeep n) ↔
      ∃ k, n ≤ k ∧ Evaluator.Enters resolver tokens k) ∧
    (∀ m, n ≤ m → (evaluate tokens { resolver, limit := some n }).result ≠ .error (.tooDeep n) →
      evaluate tokens { resolver, limit := some m } =
        evaluate tokens { resolver, limit := some n }) ∧
    (tokens.countP (·.kind.isOperator) ≤ n →
      evaluate tokens { resolver, limit := some n } = evaluate tokens { resolver }) ∧
    ∀ (t : Tree) (extra : List Token), tokens = t.preorder ++ extra →
      ((evaluate tokens { resolver, limit := some n }).result = .error (.tooDeep n) ↔
        n < t.nesting resolver) := by
  have hstops := fun n => stopsIf_evaluate resolver n tokens
  have hiff : (evaluate tokens { resolver, limit := some n }).result = .error (.tooDeep n) ↔
      ∃ k, n ≤ k ∧ Evaluator.Enters resolver tokens k := by
    refine ⟨fun hdeep => Classical.byContradiction fun hgoes => ?_, (hstops n).result_eq⟩
    rw [(hstops n).eq_of_not hgoes] at hdeep
    exact evaluate_ne_tooDeep hresolver tokens n hdeep
  refine ⟨?_, hiff, fun m hle hgoes => ?_, fun hcount => ?_, fun t extra htokens => ?_⟩
  · by_cases hdeep : ∃ k, n ≤ k ∧ Evaluator.Enters resolver tokens k
    · exact .inr ⟨(hstops n).result_eq hdeep, (hstops n).calls_within hdeep⟩
    · exact .inl ((hstops n).eq_of_not hdeep)
  · have hn := mt hiff.2 hgoes
    have hm : ¬ ∃ k, m ≤ k ∧ Evaluator.Enters resolver tokens k := fun ⟨k, hk, h⟩ =>
      hn ⟨k, Nat.le_trans hle hk, h⟩
    rw [(hstops n).eq_of_not hn, (hstops m).eq_of_not hm]
  · refine (hstops n).eq_of_not fun ⟨k, hk, h⟩ => ?_
    have hlt := h.lt_countP
    omega
  · rw [hiff, htokens]
    simp only [Evaluator.enters_preorder_iff]
    exact ⟨fun ⟨k, hk, h⟩ => Nat.lt_of_le_of_lt hk h, fun h => ⟨n, Nat.le_refl n, h⟩⟩

end

/-- Of the five operators of `(a && --b) + -c` no three stand within one another, and
    two of them are passed over where `a` is false. -/
theorem evaluate_within_limit_skipped :
    let tokens : List Token := [⟨.operator (.arithmetic .plus), 11⟩,
      ⟨.operator (.logical .and), 3⟩, ⟨.variable "a", 1⟩, ⟨.operator (.unary .minus), 6⟩,
      ⟨.operator (.unary .minus), 7⟩, ⟨.variable "b", 8⟩, ⟨.operator (.unary .minus), 13⟩,
      ⟨.variable "c", 14⟩]
    let resolver : Option Resolver := some fun _ => .ok (.boolean false)
    (∀ r ∈ resolver, ∀ path limit, r path ≠ .error (.tooDeep limit)) ∧
      evaluate tokens { resolver, limit := some 2 } = evaluate tokens { resolver } ∧
      (evaluate tokens { resolver, limit := some 1 }).result = .error (.tooDeep 1) := by
  intro tokens resolver
  let t : Tree := .binary ⟨.arithmetic .plus, rfl⟩ 11
    (.binary ⟨.logical .and, rfl⟩ 3 (.variable "a" 1)
      (.unary .minus 6 (.unary .minus 7 (.variable "b" 8))))
    (.unary .minus 13 (.variable "c" 14))
  have htokens : tokens = t.preorder ++ [] := rfl
  have hnesting : t.nesting resolver = 2 := rfl
  have hresolver : ∀ r ∈ resolver, ∀ path limit, r path ≠ .error (.tooDeep limit) := by
    intro r hr path limit
    rw [← Option.some.inj hr]
    exact nofun
  refine ⟨hresolver, ?_, ?_⟩
  · obtain ⟨heq | ⟨hdeep, _⟩, _, _, _, hiff⟩ := evaluate_within_limit resolver hresolver tokens 2
    · exact heq
    · exact absurd ((hiff t [] htokens).1 hdeep) (by rw [hnesting]; decide)
  · obtain ⟨_, _, _, _, hiff⟩ := evaluate_within_limit resolver hresolver tokens 1
    exact (hiff t [] htokens).2 (by rw [hnesting]; decide)

end ScalarExpr

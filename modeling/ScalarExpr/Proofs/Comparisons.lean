import ScalarExpr.Operation.Basic
import ScalarExpr.Proofs.TextOrder
import ScalarExpr.Regex.Dialect
/-!
# Comparisons of operands

All comparisons but the matches look at one order, that of the bytes of two texts and that
of the numbers of other operands. Two operands may have no order, and exchanging them turns
it around. So each comparison says the same of two operands as another one of the operands
exchanged, and a denial is true exactly where what it denies is false.

## Main definitions

- `Operand.order` — the order that comparisons look at
- `ComparisonOperator.exchanged` — the comparison that says the same of exchanged operands
- `ComparisonOperator.Denies` — one comparison denies another one
- `Operand.ComparisonsAgree` — how the comparisons agree with each other

## Main statements

- `ComparisonOperator.apply_exchanged`: exchanged operands
- `ComparisonOperator.relateStrictly_eq_same`: strict equality and equality for the reader
- `Operand.comparisonsAgree`: the comparisons agree with each other on all operands
-/

namespace ScalarExpr

-- ════════════════════════════════════════════════════════════════════════
-- Exchanged and denied comparisons
-- ════════════════════════════════════════════════════════════════════════

namespace ComparisonOperator

/-- The comparison that says of two operands what this one says of them exchanged. -/
def exchanged : ComparisonOperator → ComparisonOperator
  | greater => less
  | greaterOrEqual => lessOrEqual
  | less => greater
  | lessOrEqual => greaterOrEqual
  | other => other

@[simp] theorem holds_exchanged (op : ComparisonOperator) (o : Ordering) :
    op.exchanged.holds o.swap = op.holds o := by
  cases op <;> cases o <;> rfl

@[simp] theorem holdsUnordered_exchanged (op : ComparisonOperator) :
    op.exchanged.holdsUnordered = op.holdsUnordered := by
  cases op <;> rfl

/-- One comparison holds of two sides exactly where the other one does not, whether they
    have an order or not. -/
structure Denies (denial op : ComparisonOperator) : Prop where
  holds : ∀ o, denial.holds o = !op.holds o
  holdsUnordered : denial.holdsUnordered = !op.holdsUnordered

theorem notEqual_denies : Denies notEqual equal where
  holds o := by cases o <;> rfl
  holdsUnordered := rfl

theorem strictNotEqual_denies : Denies strictNotEqual strictEqual where
  holds o := by cases o <;> rfl
  holdsUnordered := rfl

end ComparisonOperator

-- ════════════════════════════════════════════════════════════════════════
-- The order of operands
-- ════════════════════════════════════════════════════════════════════════

theorem Double.order_swap (m n : Double) : n.order m = (m.order n).map Ordering.swap := by
  cases m with
  | nan => cases n <;> rfl
  | infinite s =>
    cases n with
    | nan => rfl
    | infinite t => exact congrArg some Std.OrientedOrd.eq_swap
    | finite => cases s <;> rfl
  | finite s a =>
    cases n with
    | nan => rfl
    | infinite t => cases t <;> rfl
    | finite t b => exact congrArg some Std.OrientedOrd.eq_swap

theorem Double.order_eq_none_iff {m n : Double} : m.order n = none ↔ m = .nan ∨ n = .nan := by
  cases m <;> cases n <;> simp [order]

section

variable [Regex.Engine]

namespace Operand

/-- The order that comparisons look at: the order by bytes for two texts, and the order of
    the numbers for any other operands. -/
def order : Operand → Operand → Option Ordering
  | string a, string b => some (Text.order a.toList b.toList)
  | left, right => left.toNumber.order right.toNumber

def isRegexp : Operand → Bool
  | regexp _ => true
  | _ => false

theorem order_swap (a b : Operand) : b.order a = (a.order b).map Ordering.swap := by
  cases a <;> cases b
  case string.string s t => exact congrArg some (Text.order_swap s.toList t.toList)
  all_goals
    simp only [Operand.order]
    exact Double.order_swap _ _

theorem sameKind_comm (a b : Operand) : b.sameKind a = a.sameKind b := by
  cases a <;> cases b <;> rfl

theorem isNullish_of_sameKind {a b : Operand} (h : a.sameKind b) : b.isNullish = a.isNullish := by
  cases a <;> cases b <;> simp_all [sameKind, isNullish]

end Operand

namespace ComparisonOperator

variable {op denial : ComparisonOperator} {a b : Operand}

theorem relate_eq (op : ComparisonOperator) (a b : Operand) :
    op.relate a b = (a.order b).elim op.holdsUnordered op.holds := by
  cases a <;> cases b
  case string.string => rfl
  all_goals
    simp only [relate, Operand.order]
    generalize Double.order _ _ = o
    cases o <;> rfl

-- ════════════════════════════════════════════════════════════════════════
-- Exchanged operands
-- ════════════════════════════════════════════════════════════════════════

theorem relate_exchanged (op : ComparisonOperator) (a b : Operand) :
    op.exchanged.relate b a = op.relate a b := by
  rw [relate_eq, relate_eq, Operand.order_swap a b]
  cases a.order b <;> simp

theorem relateLoosely_comm (h : op.exchanged = op) (a b : Operand) :
    op.relateLoosely b a = op.relateLoosely a b := by
  have hrelate := relate_exchanged op a b
  rw [h] at hrelate
  simp only [relateLoosely, hrelate, or_comm, and_comm]

theorem relateStrictly_comm (h : op.exchanged = op) (a b : Operand) :
    op.relateStrictly b a = op.relateStrictly a b := by
  have hrelate := relate_exchanged op a b
  rw [h] at hrelate
  rw [relateStrictly, relateStrictly, Operand.sameKind_comm, hrelate]
  by_cases hkind : a.sameKind b
  · rw [Operand.isNullish_of_sameKind hkind]
  · simp [hkind]

theorem matchSides_comm (expected : Bool) (a b : Operand) :
    matchSides expected b a = matchSides expected a b := by
  cases a <;> cases b <;> rfl

/-- A comparison of two operands says what its exchange says of them exchanged. -/
theorem apply_exchanged (op : ComparisonOperator) (a b : Operand) :
    op.exchanged.apply b a = op.apply a b := by
  cases op with
  | equal | notEqual => exact relateLoosely_comm rfl a b
  | strictEqual | strictNotEqual => exact relateStrictly_comm rfl a b
  | regexMatch | notRegexMatch => exact matchSides_comm _ a b
  | greater | greaterOrEqual | less | lessOrEqual => exact relate_exchanged _ a b

-- ════════════════════════════════════════════════════════════════════════
-- Denials
-- ════════════════════════════════════════════════════════════════════════

theorem Denies.relate (h : Denies denial op) (a b : Operand) :
    denial.relate a b = !op.relate a b := by
  rw [relate_eq, relate_eq]
  cases a.order b with
  | none => exact h.holdsUnordered
  | some o => exact h.holds o

theorem Denies.relateLoosely (h : Denies denial op) (a b : Operand) :
    denial.relateLoosely a b = !op.relateLoosely a b := by
  simp only [ComparisonOperator.relateLoosely, h.holds, h.relate]
  split <;> rfl

theorem Denies.relateStrictly (h : Denies denial op) (a b : Operand) :
    denial.relateStrictly a b = !op.relateStrictly a b := by
  simp only [ComparisonOperator.relateStrictly, h.holds, h.relate]
  split
  · rfl
  · split <;> rfl

/-- With one regular expression on either side, there is a match or there is none. -/
theorem exists_matchSides_eq (h : a.isRegexp ≠ b.isRegexp) :
    ∃ found : Bool, ∀ expected, matchSides expected a b = decide (found = expected) := by
  cases a with
  | regexp r =>
    cases b with
    | regexp => exact absurd rfl h
    | _ => exact ⟨_, fun _ => rfl⟩
  | _ =>
    cases b with
    | regexp r => exact ⟨_, fun _ => rfl⟩
    | _ => exact absurd rfl h

theorem matchSides_not (h : a.isRegexp ≠ b.isRegexp) (expected : Bool) :
    matchSides (!expected) a b = !matchSides expected a b := by
  obtain ⟨found, hfound⟩ := exists_matchSides_eq h
  rw [hfound, hfound]
  cases found <;> cases expected <;> rfl

theorem matchSides_eq_false (h : a.isRegexp = b.isRegexp) (expected : Bool) :
    matchSides expected a b = false := by
  cases a with
  | regexp r =>
    cases b with
    | regexp => rfl
    | _ => cases h
  | _ =>
    cases b with
    | regexp r => cases h
    | _ => rfl

-- ════════════════════════════════════════════════════════════════════════
-- Equality, strict or not
-- ════════════════════════════════════════════════════════════════════════

theorem relate_strictEqual (a b : Operand) : strictEqual.relate a b = equal.relate a b := by
  rw [relate_eq, relate_eq]
  cases a.order b <;> rfl

theorem relateLoosely_of_relateStrictly (h : strictEqual.relateStrictly a b) :
    equal.relateLoosely a b := by
  rw [relateStrictly] at h
  split at h
  · cases h
  · rename_i hkind
    have hkind : a.sameKind b := by simpa using hkind
    rw [relateLoosely, Operand.isNullish_of_sameKind hkind]
    split at h
    · rename_i hnullish
      simp [hnullish, holds]
    · rename_i hnullish
      simpa [hnullish, relate_strictEqual] using h

theorem same_string (s t : String) :
    strictEqual.relate (.string s) (.string t) = (Operand.string s).same (.string t) := by
  simp only [relate, holds, Operand.same, Text.order_eq_eq_iff, String.toList_inj]

theorem same_number {m : Double} (hm : m ≠ .nan) (n : Double) :
    strictEqual.relate (.number m) (.number n) = (Operand.number m).same (.number n) := by
  have hnan : m.isNaN = false := by cases m <;> first | rfl | exact absurd rfl hm
  rw [relate_eq]
  simp only [Operand.order, Operand.toNumber, Operand.same, hnan, Bool.false_and, Bool.or_false]
  cases m.order n <;> simp [holds, holdsUnordered]

theorem same_boolean (p q : Bool) :
    strictEqual.relate (.boolean p) (.boolean q) = (Operand.boolean p).same (.boolean q) := by
  rw [relate_eq]
  simp only [Operand.order, Operand.toNumber, Operand.same]
  cases p <;> cases q <;> decide +kernel

/-- Operands are strictly equal if they look the same, not-a-number and regular expressions
    apart. -/
theorem relateStrictly_eq_same (ha : a ≠ .number .nan) (hregexp : ¬ a.isRegexp) (b : Operand) :
    strictEqual.relateStrictly a b = a.same b := by
  cases a <;> cases b
  case string.string s t => exact same_string s t
  case number.number m n => exact same_number (fun h => ha (congrArg _ h)) n
  case boolean.boolean p q => exact same_boolean p q
  case regexp.regexp => exact absurd rfl hregexp
  all_goals rfl

end ComparisonOperator

-- ════════════════════════════════════════════════════════════════════════
-- All comparisons
-- ════════════════════════════════════════════════════════════════════════

namespace Operand

open ComparisonOperator

/-- How the comparisons agree with each other on two operands. -/
structure ComparisonsAgree (a b : Operand) : Prop where
  notEqual_eq : notEqual.apply a b = !equal.apply a b
  strictNotEqual_eq : strictNotEqual.apply a b = !strictEqual.apply a b
  /-- Equalities and matches do not ask which operand stands on the left. -/
  comm : ∀ op ∈ [equal, notEqual, strictEqual, strictNotEqual, regexMatch, notRegexMatch],
    op.apply a b = op.apply b a
  /-- An order says the same the other way around. -/
  less_eq : less.apply a b = greater.apply b a
  lessOrEqual_eq : lessOrEqual.apply a b = greaterOrEqual.apply b a
  equal_of_strictEqual : strictEqual.apply a b → equal.apply a b
  /-- A match and its denial are told apart where exactly one side is a regular expression,
      and neither holds anywhere else. -/
  notRegexMatch_eq : a.isRegexp ≠ b.isRegexp → notRegexMatch.apply a b = !regexMatch.apply a b
  match_eq_false : a.isRegexp = b.isRegexp →
    regexMatch.apply a b = false ∧ notRegexMatch.apply a b = false
  /-- Strict equality is that of the reader, not-a-number and regular expressions apart. -/
  strictEqual_eq_same : a ≠ number .nan → b ≠ number .nan → ¬ a.isRegexp → ¬ b.isRegexp →
    strictEqual.apply a b = a.same b

/-- The comparisons agree with each other on any two operands. -/
theorem comparisonsAgree (a b : Operand) : ComparisonsAgree a b where
  notEqual_eq := notEqual_denies.relateLoosely a b
  strictNotEqual_eq := strictNotEqual_denies.relateStrictly a b
  comm := by
    simp only [List.forall_mem_cons]
    exact ⟨apply_exchanged equal b a, apply_exchanged notEqual b a,
      apply_exchanged strictEqual b a, apply_exchanged strictNotEqual b a,
      apply_exchanged regexMatch b a, apply_exchanged notRegexMatch b a, nofun⟩
  less_eq := apply_exchanged greater b a
  lessOrEqual_eq := apply_exchanged greaterOrEqual b a
  equal_of_strictEqual := relateLoosely_of_relateStrictly
  notRegexMatch_eq hne := matchSides_not hne true
  match_eq_false heq := ⟨matchSides_eq_false heq true, matchSides_eq_false heq false⟩
  strictEqual_eq_same ha _ hregexp _ := relateStrictly_eq_same ha hregexp b

end Operand

end

namespace Operand

open ComparisonOperator

/-- `/a/` matches `cat` and so its denial does not hold, nothing matches a regular expression
    by another one, and the two zeros are strictly equal as they look the same. -/
theorem comparisonsAgree_matching :
    let r : Operand := .regexp ⟨"a", .none, by decide⟩
    regexMatch.apply r (.string "cat") = true ∧ notRegexMatch.apply r (.string "cat") = false ∧
      regexMatch.apply r r = false ∧
      strictEqual.apply (.number (.zero false)) (.number (.zero true)) = true := by
  intro r
  have hmatch : regexMatch.apply r (.string "cat") = true := by decide +kernel
  have hdenied := (comparisonsAgree r (.string "cat")).notRegexMatch_eq (by decide)
  have hneither := (comparisonsAgree r r).match_eq_false rfl
  have hzeros :=
    (comparisonsAgree (.number (.zero false)) (.number (.zero true))).strictEqual_eq_same
      nofun nofun nofun nofun
  rw [hmatch] at hdenied
  exact ⟨hmatch, hdenied, hneither.1, hzeros⟩

end Operand

end ScalarExpr

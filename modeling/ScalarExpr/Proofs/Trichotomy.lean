import Mathlib.Logic.ExistsUnique
import Mathlib.Order.Defs.Unbundled
import ScalarExpr.Proofs.Comparisons
import ScalarExpr.Regex.Dialect
/-!
# Trichotomy of operands

Null and undefined apart, two texts have an order and so have two operands that both have a
number. Of such operands one is less than the other one or they are equal. All others are
unequal, and no other comparison holds of them.

## Main definitions

- `Operand.AreOrdered` — two texts, or two operands with numbers

## Main statements

- `Operand.order_eq_none_iff`: which operands have no order
- `Operand.isStrictTotalOrder_less`: texts have a strict total order
- `Operand.trichotomy`: the comparisons of operands with an order and without one
-/

namespace ScalarExpr

namespace ComparisonOperator

/-- Exactly one of the three holds of two sides in an order. -/
theorem existsUnique_holds (o : Ordering) :
    ∃! op, op ∈ [less, equal, greater] ∧ op.holds o := by
  cases o with
  | lt => exact ⟨less, by simp [holds], by simp [holds]⟩
  | eq => exact ⟨equal, by simp [holds], by simp [holds]⟩
  | gt => exact ⟨greater, by simp [holds], by simp [holds]⟩

theorem lessOrEqual_holds_iff (o : Ordering) :
    lessOrEqual.holds o ↔ less.holds o ∨ equal.holds o := by
  cases o <;> decide

theorem greaterOrEqual_holds_iff (o : Ordering) :
    greaterOrEqual.holds o ↔ greater.holds o ∨ equal.holds o := by
  cases o <;> decide

variable [Regex.Engine]

variable {op : ComparisonOperator} {a b : Operand}

/-- The comparisons that coerce operands of different kinds. -/
def coerces : ComparisonOperator → Bool
  | strictEqual | strictNotEqual | regexMatch | notRegexMatch => false
  | _ => true

/-- Null and undefined apart, the order of the operands decides these comparisons. -/
theorem apply_eq_relate (ha : ¬ a.isNullish) (hb : ¬ b.isNullish) (hop : op.coerces) :
    op.apply a b = op.relate a b := by
  cases op with
  | equal | notEqual => simp [apply, relateLoosely, ha, hb]
  | strictEqual | strictNotEqual | regexMatch | notRegexMatch => cases hop
  | greater | greaterOrEqual | less | lessOrEqual => rfl

theorem apply_strictEqual_eq_false (ha : ¬ a.isNullish) (h : a.order b = none) :
    strictEqual.apply a b = false := by
  have hrelate : strictEqual.relate a b = false := by
    rw [relate_eq, h]
    rfl
  simp only [apply, relateStrictly, ha, hrelate]
  split <;> rfl

end ComparisonOperator

namespace Operand

open ComparisonOperator

variable [Regex.Engine]

variable {a b : Operand}

/-- Two texts, or two operands that both have a number. -/
def AreOrdered (a b : Operand) : Prop :=
  (∃ s t, a = string s ∧ b = string t) ∨ a.toNumber ≠ .nan ∧ b.toNumber ≠ .nan

theorem order_eq_none_iff : a.order b = none ↔ ¬ AreOrdered a b := by
  rw [AreOrdered, not_or, Classical.not_and_iff_not_or_not, Classical.not_not,
    Classical.not_not, ← Double.order_eq_none_iff]
  cases a <;> cases b
  case string.string => simp [order]
  all_goals simp [order]

theorem exists_order_of_areOrdered (h : AreOrdered a b) : ∃ o, a.order b = some o := by
  rw [← Option.ne_none_iff_exists', ne_eq, order_eq_none_iff]
  exact not_not_intro h

/-- In an order, a comparison asks for where the left operand stands. -/
theorem exists_holds_of_areOrdered (ha : ¬ a.isNullish) (hb : ¬ b.isNullish)
    (h : AreOrdered a b) :
    ∃ o, ∀ op : ComparisonOperator, op.coerces → op.apply a b = op.holds o := by
  obtain ⟨o, ho⟩ := exists_order_of_areOrdered h
  refine ⟨o, fun op hop => ?_⟩
  rw [apply_eq_relate ha hb hop, relate_eq, ho]
  rfl

theorem existsUnique_apply (ha : ¬ a.isNullish) (hb : ¬ b.isNullish) (h : AreOrdered a b) :
    ∃! op, op ∈ [less, equal, greater] ∧ op.apply a b := by
  obtain ⟨o, ho⟩ := exists_holds_of_areOrdered ha hb h
  have happly : ∀ op ∈ [less, equal, greater], op.apply a b = op.holds o := by
    simp only [List.forall_mem_cons]
    exact ⟨ho _ rfl, ho _ rfl, ho _ rfl, nofun⟩
  obtain ⟨op, ⟨hmem, hop⟩, hunique⟩ := existsUnique_holds o
  refine ⟨op, ⟨hmem, (happly op hmem).trans hop⟩, ?_⟩
  rintro other ⟨hother, hholds⟩
  exact hunique other ⟨hother, (happly other hother).symm.trans hholds⟩

/-- In an order, a weak comparison joins equality to the strict one. -/
theorem apply_weak_iff (ha : ¬ a.isNullish) (hb : ¬ b.isNullish) (h : AreOrdered a b)
    {weak strict : ComparisonOperator} (hweak : weak.coerces) (hstrict : strict.coerces)
    (hholds : ∀ o, weak.holds o ↔ strict.holds o ∨ equal.holds o) :
    weak.apply a b ↔ strict.apply a b ∨ equal.apply a b := by
  obtain ⟨o, ho⟩ := exists_holds_of_areOrdered ha hb h
  rw [ho weak hweak, ho strict hstrict, ho equal rfl]
  exact hholds o

/-- Without an order, all comparisons fail but the inequalities. -/
theorem apply_of_not_areOrdered (ha : ¬ a.isNullish) (hb : ¬ b.isNullish)
    (h : ¬ AreOrdered a b) :
    (∀ op ∈ [less, lessOrEqual, greater, greaterOrEqual, equal, strictEqual],
      ¬ op.apply a b) ∧
    ∀ op ∈ [notEqual, strictNotEqual], op.apply a b := by
  have hnone : a.order b = none := order_eq_none_iff.2 h
  have hcoerces (op : ComparisonOperator) (hop : op.coerces) :
      op.apply a b = op.holdsUnordered := by
    rw [apply_eq_relate ha hb hop, relate_eq, hnone]
    rfl
  have hstrict : strictEqual.apply a b = false := apply_strictEqual_eq_false ha hnone
  have hdenied : strictNotEqual.apply a b = !strictEqual.apply a b :=
    strictNotEqual_denies.relateStrictly a b
  rw [hstrict] at hdenied
  simp only [List.forall_mem_cons, Bool.not_eq_true]
  exact ⟨⟨hcoerces less rfl, hcoerces lessOrEqual rfl, hcoerces greater rfl,
    hcoerces greaterOrEqual rfl, hcoerces equal rfl, hstrict, nofun⟩,
    hcoerces notEqual rfl, hdenied, nofun⟩

-- ════════════════════════════════════════════════════════════════════════
-- Texts
-- ════════════════════════════════════════════════════════════════════════

theorem less_string_iff (s t : String) :
    less.apply (string s) (string t) ↔ Text.order s.toList t.toList = .lt := by
  simp [apply, relate, holds]

/-- The order of texts is strict and total. -/
theorem isStrictTotalOrder_less :
    IsStrictTotalOrder String (fun s t => less.apply (string s) (string t)) where
  trichotomous s t hst hts := by
    rw [less_string_iff] at hst hts
    rw [Text.order_swap s.toList t.toList] at hts
    rw [← String.toList_inj, ← Text.order_eq_eq_iff]
    cases h : Text.order s.toList t.toList <;> simp_all
  irrefl s h := by
    rw [less_string_iff, (Text.order_eq_eq_iff _ _).2 rfl] at h
    cases h
  trans s t u hst htu := by
    rw [less_string_iff] at hst htu ⊢
    exact Text.order_trans hst htu

-- ════════════════════════════════════════════════════════════════════════
-- Trichotomy
-- ════════════════════════════════════════════════════════════════════════

/-- Of two operands, null and undefined apart, that are texts or have numbers, one is less
    than the other one or they are equal, and never two of these; and the weak comparisons
    join equality to the strict ones. All other operands are unequal, strictly or not, and
    no other comparison holds of them. Texts are in a strict total order, that of their
    bytes, which is the lexicographic one of their code points. -/
theorem trichotomy :
    (∀ a b : Operand, ¬ a.isNullish → ¬ b.isNullish → AreOrdered a b →
      (∃! op, op ∈ [less, equal, greater] ∧ op.apply a b) ∧
      (lessOrEqual.apply a b ↔ less.apply a b ∨ equal.apply a b) ∧
      (greaterOrEqual.apply a b ↔ greater.apply a b ∨ equal.apply a b)) ∧
    (∀ a b : Operand, ¬ a.isNullish → ¬ b.isNullish → ¬ AreOrdered a b →
      (∀ op ∈ [less, lessOrEqual, greater, greaterOrEqual, equal, strictEqual],
        ¬ op.apply a b) ∧
      ∀ op ∈ [notEqual, strictNotEqual], op.apply a b) ∧
    IsStrictTotalOrder String (fun s t => less.apply (string s) (string t)) ∧
    ∀ s t : String,
      (less.apply (string s) (string t) ↔
        compare (Text.bytes s.toList) (Text.bytes t.toList) = .lt) ∧
      compare (Text.bytes s.toList) (Text.bytes t.toList) =
        compare (s.toList.map Char.toNat) (t.toList.map Char.toNat) := by
  refine ⟨fun a b ha hb h => ?_, fun a b ha hb h => apply_of_not_areOrdered ha hb h,
    isStrictTotalOrder_less,
    fun s t => ⟨less_string_iff s t, Text.order_eq_compare s.toList t.toList⟩⟩
  exact ⟨existsUnique_apply ha hb h, apply_weak_iff ha hb h rfl rfl lessOrEqual_holds_iff,
    apply_weak_iff ha hb h rfl rfl greaterOrEqual_holds_iff⟩

end Operand

namespace Operand

open ComparisonOperator

/-- A hexadecimal text and a truth value have an order, so that ` 0x1 ` is at most true
    exactly if it is less or equal; a word that spells no number has none. -/
theorem trichotomy_of_coerced :
    let one := string " 0x1 "
    let word := string "one"
    AreOrdered one (boolean true) ∧
      (∃! op, op ∈ [less, equal, greater] ∧ op.apply one (boolean true)) ∧
      (lessOrEqual.apply one (boolean true) ↔
        less.apply one (boolean true) ∨ equal.apply one (boolean true)) ∧
      ¬ AreOrdered word (boolean true) ∧ ¬ equal.apply word (boolean true) ∧
      notEqual.apply word (boolean true) := by
  intro one word
  have hone : AreOrdered one (boolean true) := .inr ⟨by decide +kernel, by decide +kernel⟩
  have hword : ¬ AreOrdered word (boolean true) := order_eq_none_iff.1 (by decide +kernel)
  obtain ⟨hordered, hunordered, -⟩ := trichotomy
  obtain ⟨hunique, hle, -⟩ := hordered one (boolean true) nofun nofun hone
  obtain ⟨hfails, hholds⟩ := hunordered word (boolean true) nofun nofun hword
  exact ⟨hone, hunique, hle, hword, hfails equal (by simp), hholds notEqual (by simp)⟩

end Operand

end ScalarExpr

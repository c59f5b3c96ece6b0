import ScalarExpr.Double.Power
import ScalarExpr.Error
import ScalarExpr.Operand.Coercion
import ScalarExpr.Operator
/-!
# What operators do to operands

Each family of operators coerces its operands in one way and then works on
texts, numbers, words or truth values.

## Main definitions

- `ArithmeticOperator.apply`, `BitwiseOperator.apply`, `ComparisonOperator.apply`,
  `UnaryOperator.apply` — the operators on operands
- `LogicalOperator.decides` — whether the left operand is the result
- `Operator.applyBinary`, `Operator.applyUnary` — any operator on operands, an
  error if it does not take them
-/

namespace ScalarExpr

variable [Regex.Engine]

-- ════════════════════════════════════════════════════════════════════════
-- Numbers and words
-- ════════════════════════════════════════════════════════════════════════

/-- A sum is a text if one side is; then the texts of both are joined. -/
def Operand.plus (left right : Operand) : Operand :=
  match left, right with
  | .string _, _ | _, .string _ => .string (left.toText ++ right.toText)
  | _, _ => .number (left.toNumber + right.toNumber)

def ArithmeticOperator.apply (op : ArithmeticOperator) (left right : Operand) : Operand :=
  match op with
  | plus => left.plus right
  | minus => .number (left.toNumber - right.toNumber)
  | multiply => .number (left.toNumber * right.toNumber)
  | divide => .number (left.toNumber / right.toNumber)
  | remainder => .number (left.toNumber % right.toNumber)
  | power => .number (left.toNumber.pow right.toNumber)

/-- The count as a number of 32 bits, unless it is negative or too large for one. -/
def narrow? (count : Int64) : Option UInt32 :=
  if 0 ≤ count.toInt ∧ count.toInt < UInt32.size then some (UInt32.ofNat count.toInt.toNat)
  else none

/-- The number of places that a count stands for: its number of 32 bits, if a word has more
    bits than that. -/
def places? (count : Int64) : Option Nat := ((narrow? count).map UInt32.toNat).filter (· < 64)

/-- A word shifted to the left. No bit is left from 64 places on, nor if the
    count is negative. -/
def shiftLeft (word count : Int64) : Int64 :=
  ((places? count).map fun n => word <<< Int64.ofNat n).getD 0

/-- A word shifted to the right, its sign moving in. Only the sign is left from
    64 places on, and if the count is negative. -/
def shiftRight (word count : Int64) : Int64 :=
  ((places? count).map fun n => word >>> Int64.ofNat n).getD (if word < 0 then -1 else 0)

def BitwiseOperator.onWords (op : BitwiseOperator) (left right : Int64) : Int64 :=
  match op with
  | or => left ||| right
  | xor => left ^^^ right
  | and => left &&& right
  | shiftRight => ScalarExpr.shiftRight left right
  | shiftLeft => ScalarExpr.shiftLeft left right

def BitwiseOperator.apply (op : BitwiseOperator) (left right : Operand) : Operand :=
  .ofInt (op.onWords left.toInteger right.toInteger).toInt

def UnaryOperator.apply (op : UnaryOperator) (x : Operand) : Operand :=
  match op with
  | not => .boolean (!x.toBoolean)
  | bitNot => .ofInt (~~~ x.toInteger).toInt
  | minus => .number (-x.toNumber)

-- ════════════════════════════════════════════════════════════════════════
-- Comparisons
-- ════════════════════════════════════════════════════════════════════════

namespace ComparisonOperator

/-- Whether a comparison holds of two sides in this order. -/
def holds : ComparisonOperator → Ordering → Bool
  | equal, o | strictEqual, o => o = .eq
  | notEqual, o | strictNotEqual, o => o ≠ .eq
  | greater, o => o = .gt
  | greaterOrEqual, o => o ≠ .lt
  | less, o => o = .lt
  | lessOrEqual, o => o ≠ .gt
  | regexMatch, _ | notRegexMatch, _ => false

/-- Whether a comparison holds of sides that have no order. -/
def holdsUnordered : ComparisonOperator → Bool
  | notEqual | strictNotEqual => true
  | _ => false

/-- Two texts compare by their bytes, anything else as numbers. -/
def relate (op : ComparisonOperator) (left right : Operand) : Bool :=
  match left, right with
  | .string a, .string b => op.holds (Text.order a.toList b.toList)
  | _, _ =>
    match left.toNumber.order right.toNumber with
    | some o => op.holds o
    | none => op.holdsUnordered

/-- Whether two operands are equal, as `op` asks it: null and undefined equal
    each other and nothing else. -/
def relateLoosely (op : ComparisonOperator) (left right : Operand) : Bool :=
  if left.isNullish ∨ right.isNullish then
    op.holds (if left.isNullish ∧ right.isNullish then .eq else .lt)
  else
    op.relate left right

/-- Whether two operands are equal without coercion, as `op` asks it: operands of
    different kinds are not. -/
def relateStrictly (op : ComparisonOperator) (left right : Operand) : Bool :=
  if ¬ left.sameKind right then op.holds .lt
  else if left.isNullish then op.holds .eq
  else op.relate left right

/-- Whether a regular expression on one side matches the text of the other. If
    neither side is one, or both are, neither a match nor its denial holds. -/
def matchSides (expected : Bool) (left right : Operand) : Bool :=
  match left, right with
  | .regexp _, .regexp _ => false
  | .regexp r, x | x, .regexp r => r.isMatch x.toText = expected
  | _, _ => false

def apply (op : ComparisonOperator) (left right : Operand) : Bool :=
  match op with
  | equal | notEqual => op.relateLoosely left right
  | strictEqual | strictNotEqual => op.relateStrictly left right
  | regexMatch => matchSides true left right
  | notRegexMatch => matchSides false left right
  | greater | greaterOrEqual | less | lessOrEqual => op.relate left right

end ComparisonOperator

-- ════════════════════════════════════════════════════════════════════════
-- Any operator
-- ════════════════════════════════════════════════════════════════════════

/-- A left operand that is false decides `&&`, one that is true decides `||`. -/
def LogicalOperator.decides (op : LogicalOperator) (left : Operand) : Bool :=
  match op with
  | and => !left.toBoolean
  | or => left.toBoolean

namespace Operator

/-- Apply an operator to two operands that are both known. The logical operators
    are not applied this way, since they may leave the right operand alone. -/
def applyBinary (op : Operator) (left right : Operand) : Except Error Operand :=
  match op with
  | arithmetic op => .ok (op.apply left right)
  | bitwise op => .ok (op.apply left right)
  | comparison op => .ok (.boolean (op.apply left right))
  | logical _ | unary _ => .error (.unknownOperator op.spelling)

/-- Apply an operator to its single operand. -/
def applyUnary (op : Operator) (x : Operand) : Except Error Operand :=
  match op with
  | unary op => .ok (op.apply x)
  | _ => .error (.unknownOperator op.spelling)

end Operator

end ScalarExpr

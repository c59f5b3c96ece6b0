import ScalarExpr.Decimal.Shortest
import ScalarExpr.Regexp
/-!
# Operands

The values that expressions are made of and come to: texts, numbers, truth
values, null, undefined and regular expressions.

## Main definitions

- `Operand` — the values
- `Operand.sameKind`, `Operand.isNullish` — what the comparisons ask of a value
- `Operand.same` — equality for the reader of a result
- `Operand.display` — the canonical writing
-/

namespace ScalarExpr

variable [Regex.Engine]

/-- A value of the language. -/
inductive Operand where
  | string (s : String)
  | number (n : Double)
  | boolean (b : Bool)
  | null
  | undefined
  | regexp (r : Regexp)
deriving DecidableEq

namespace Operand

/-- The number nearest to an integer. -/
def ofInt (n : Int) : Operand := .number (.ofInt n)

/-- Null or undefined. -/
def isNullish : Operand → Bool
  | null | undefined => true
  | _ => false

/-- Two values of one kind. -/
def sameKind : Operand → Operand → Bool
  | string _, string _ | number _, number _ | boolean _, boolean _ => true
  | null, null | undefined, undefined | regexp _, regexp _ => true
  | _, _ => false

/-- Two values that look the same: not-a-number is the same as itself, and so
    are the two zeros. -/
def same : Operand → Operand → Bool
  | string a, string b => a = b
  | number a, number b => a.order b = some .eq || (a.isNaN && b.isNaN)
  | boolean a, boolean b => a = b
  | null, null | undefined, undefined => true
  | regexp a, regexp b => a = b
  | _, _ => false

/-- A text in double quotes; a backslash stands before each quote and backslash
    of its own. -/
def displayString (s : String) : String :=
  String.ofList ('"' :: (s.toList.flatMap fun c => if c = '"' ∨ c = '\\' then ['\\', c] else [c])
    ++ ['"'])

/-- The canonical writing: texts in quotes, regular expressions as literals. -/
def display : Operand → String
  | string s => displayString s
  | number n => String.ofList n.text
  | boolean true => "true"
  | boolean false => "false"
  | null => "null"
  | undefined => "undefined"
  | regexp r => r.display

end Operand

end ScalarExpr

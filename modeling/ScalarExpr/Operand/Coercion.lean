import ScalarExpr.Operand.Basic
import ScalarExpr.Text.Basic
import ScalarExpr.Text.Hexadecimal
/-!
# Coercions of operands

Every operand has a text, a number, a truth value and a word.

## Main definitions

- `Operand.toText`, `Operand.toNumber`, `Operand.toBoolean`, `Operand.toInteger`
- `Operand.numberOfText` — the number that a text spells
-/

namespace ScalarExpr

variable [Regex.Engine]

namespace Operand

/-- The text of an operand. Unlike its writing, a text has no quotes. -/
def toText : Operand → String
  | string s => s
  | other => other.display

/-- The number that hexadecimal digits spell, if there are any and it fits 64
    bits. -/
def numberOfHex (digits : List Char) : Double :=
  let n := Text.hexValue digits
  if digits ≠ [] ∧ digits.all Text.isHexDigit ∧ n < UInt64.size then .ofInt n else .nan

/-- The number that a text without white space around it spells. -/
def numberOfTrimmed : List Char → Double
  | [] => 0
  | '0' :: 'x' :: digits | '0' :: 'X' :: digits => numberOfHex digits
  | cs =>
    if cs = "Infinity".toList ∨ cs = "+Infinity".toList then .infinite false
    else if cs = "-Infinity".toList then .infinite true
    else ((Numeral.read? cs).map Numeral.toDouble).getD .nan

/-- The number that a text spells: a decimal numeral, hexadecimal digits after
    `0x`, or an infinity by its long name. White space around it is ignored, no
    text is zero, and any other text is not a number. -/
def numberOfText (s : String) : Double := numberOfTrimmed (Text.trim s.toList)

/-- The number of an operand. -/
def toNumber : Operand → Double
  | string s => numberOfText s
  | number n => n
  | boolean b => if b then 1 else 0
  | null => 0
  | undefined | regexp _ => .nan

/-- The truth value of an operand: the empty text, the zeros and not-a-number are
    false, and so are null, undefined and regular expressions. -/
def toBoolean : Operand → Bool
  | string s => s ≠ ""
  | number n => !n.isZero && !n.isNaN
  | boolean b => b
  | null | undefined | regexp _ => false

/-- The word of an operand: its number without the fraction, saturating. -/
def toInteger (x : Operand) : Int64 := x.toNumber.toInt64

end Operand

end ScalarExpr

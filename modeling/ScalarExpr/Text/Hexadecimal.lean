/-!
# Hexadecimal digits

## Main definitions

- `Text.isHexDigit` — the digits, in either case
- `Text.hexValue` — the number that a list of digits spells
-/

namespace ScalarExpr

namespace Text

/-- A decimal digit or a letter from `a` to `f`, in either case. -/
def isHexDigit (c : Char) : Bool :=
  c.isDigit || ('a' ≤ c && c ≤ 'f') || ('A' ≤ c && c ≤ 'F')

/-- The value of a hexadecimal digit. -/
def hexDigitValue (c : Char) : Nat :=
  if c.isDigit then c.toNat - '0'.toNat
  else if 'a' ≤ c then c.toNat - 'a'.toNat + 10
  else c.toNat - 'A'.toNat + 10

/-- The number that hexadecimal digits spell, the most significant first. -/
def hexValue (digits : List Char) : Nat :=
  digits.foldl (fun n c => 16 * n + hexDigitValue c) 0

end Text

end ScalarExpr

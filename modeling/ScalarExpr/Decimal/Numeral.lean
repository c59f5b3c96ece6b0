import ScalarExpr.Double.Arithmetic
/-!
# Decimal numerals

A numeral is an optional sign, digits with at most one point among or around
them, and an optional exponent. It stands for the nearest binary64 number.

## Main definitions

- `Numeral.read?` — the numeral a whole text spells
- `Numeral.toDouble` — the number nearest to a numeral
- `Double.ofDecimal` — the number nearest to `digits * 10 ^ exponent`
-/

namespace ScalarExpr

/-- A decimal numeral, by its parts. -/
structure Numeral where
  negative : Bool
  /-- The digits before the point. -/
  whole : List Char
  /-- The digits after the point. -/
  fraction : List Char
  /-- The power of ten. -/
  exponent : Int

/-- Ten to the power `k`. -/
def powerOfTen (k : Nat) : Nat := Nat.pow 10 k

theorem powerOfTen_zero : powerOfTen 0 = 1 := rfl

theorem powerOfTen_pos (k : Nat) : 0 < powerOfTen k := Nat.pow_pos (by decide)

/-- A power of ten is one of five, shifted to the left. -/
theorem powerOfTen_eq_shiftLeft (k : Nat) : powerOfTen k = Nat.pow 5 k <<< k := by
  rw [Nat.shiftLeft_eq]
  exact Nat.mul_pow 5 2 k

/-- The number nearest to `digits * 10 ^ exponent`, ties to even. -/
def Double.ofDecimal (negative : Bool) (digits : Nat) (exponent : Int) : Double :=
  ofUnits negative (digits * powerOfTen exponent.toNat * unitsPerOne) (powerOfTen (-exponent).toNat)

namespace Numeral

/-- A leading sign: whether it is a minus, and what follows it. -/
def readSign : List Char → Bool × List Char
  | '+' :: cs => (false, cs)
  | '-' :: cs => (true, cs)
  | cs => (false, cs)

/-- The longest run of digits, and what follows it. -/
def readDigits (cs : List Char) : List Char × List Char :=
  (cs.takeWhile Char.isDigit, cs.dropWhile Char.isDigit)

/-- The digits after a point, if there is one. -/
def readFraction : List Char → List Char × List Char
  | '.' :: cs => readDigits cs
  | cs => ([], cs)

/-- The exponent that a text spells from its mark to its end. No text is the
    exponent zero; a mark needs at least one digit. -/
def readExponent? : List Char → Option Int
  | [] => some 0
  | mark :: cs =>
    let (negative, digits) := readSign cs
    if (mark = 'e' ∨ mark = 'E') ∧ digits ≠ [] ∧ digits.all Char.isDigit then
      let size : Int := Nat.ofDigitChars 10 digits 0
      some (if negative then -size else size)
    else
      none

/-- The numeral that a text spells from its first character to its last. There
    is at least one digit before or after the point. -/
def read? (cs : List Char) : Option Numeral :=
  let (negative, cs) := readSign cs
  let (whole, cs) := readDigits cs
  let (fraction, cs) := readFraction cs
  if whole = [] ∧ fraction = [] then none
  else (readExponent? cs).map (⟨negative, whole, fraction, ·⟩)

/-- The digits of a numeral, the point left out. -/
def digits (n : Numeral) : List Char := n.whole ++ n.fraction

/-- The number nearest to a numeral.

    A power of ten beyond 400 makes any digits but zero an infinity, and one
    below minus 400 and their count makes any digits zero, so the exponent is
    confined between the two. -/
def toDouble (n : Numeral) : Double :=
  let exponent := n.exponent - n.fraction.length
  let confined := max (-(n.digits.length + 400 : Int)) (min exponent 400)
  .ofDecimal n.negative (Nat.ofDigitChars 10 n.digits 0) confined

end Numeral

end ScalarExpr

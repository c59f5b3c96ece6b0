import ScalarExpr.Double.Arithmetic
/-!
# Powers of binary64 numbers

A power is no quotient of integers, so it has no exact form to round. The
machine computes it; the numbers go to it and come back as their 64 bits.

## Main definitions

- `Double.toBits`, `Double.ofBits` — the interchange format: a sign bit, eleven
  bits of exponent, fifty-two of significand
- `Double.pow` — the machine's power function
-/

namespace ScalarExpr

/-- What the significand field is smaller than: the leading bit is left out. -/
def significandRange : Nat := 1 <<< (significantBits - 1)

/-- The exponent and significand fields of a magnitude, as one number. -/
def Magnitude.fields (m : Magnitude) : Nat :=
  if m.units < significandRange then m.units
  else
    let exponent := m.units.log2 + 1 - significantBits
    (exponent + 1) * significandRange + ((m.units >>> exponent) - significandRange)

namespace Double

/-- The fields that stand for an infinity; larger ones are not a number. -/
def infiniteFields : Nat := 2047 * significandRange

/-- The weight of the sign bit, which stands above the fields. -/
def signWeight : Nat := 2048 * significandRange

def toBits : Double → UInt64
  | nan => (infiniteFields + significandRange / 2).toUInt64
  | infinite s => (infiniteFields + s.toNat * signWeight).toUInt64
  | finite s m => (m.fields + s.toNat * signWeight).toUInt64

def ofBits (bits : UInt64) : Double :=
  let negative : Bool := signWeight ≤ bits.toNat
  let fields := bits.toNat % signWeight
  let exponent := fields / significandRange
  let significand := fields % significandRange
  if fields = infiniteFields then infinite negative
  else if infiniteFields < fields then nan
  else if exponent = 0 then ofUnits negative significand 1
  else ofUnits negative ((significandRange + significand) <<< (exponent - 1)) 1

/-- `x` to the power `y`. -/
def pow (x y : Double) : Double :=
  ofBits (Float.pow (Float.ofBits x.toBits) (Float.ofBits y.toBits)).toBits

end Double

end ScalarExpr

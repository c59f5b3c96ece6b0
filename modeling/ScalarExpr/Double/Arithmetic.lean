import ScalarExpr.Double.Basic
/-!
# Arithmetic and order of binary64 numbers

Each operation is the exact result, rounded once. Sums, differences and
remainders of finite numbers are taken on counts of units; products and
quotients are quotients of counts.

## Main definitions

- `Double.add`, `Double.sub`, `Double.mul`, `Double.div`, `Double.neg`
- `Double.rem` — the remainder of truncating division, with the sign of the
  dividend
- `Double.order` — the order of two numbers, undefined on not-a-number
- `Double.toInt64` — truncation to a word, saturating
-/

namespace ScalarExpr

namespace Double

def neg : Double → Double
  | nan => nan
  | infinite s => infinite (!s)
  | finite s m => finite (!s) m

/-- The units of a finite number with its sign. -/
def signedUnits (negative : Bool) (m : Magnitude) : Int :=
  if negative then -(m.units : Int) else m.units

/-- A sum that cancels is negative zero only if both terms are negative. -/
def add : Double → Double → Double
  | nan, _ | _, nan => nan
  | infinite s, infinite t => if s = t then infinite s else nan
  | infinite s, finite _ _ => infinite s
  | finite _ _, infinite t => infinite t
  | finite s a, finite t b =>
    let sum := signedUnits s a + signedUnits t b
    if sum = 0 then zero (s && t) else ofUnits (sum < 0) sum.natAbs 1

def sub (x y : Double) : Double := add x y.neg

/-- Infinity times zero is not a number. -/
def mul : Double → Double → Double
  | nan, _ | _, nan => nan
  | infinite s, infinite t => infinite (s != t)
  | infinite s, finite t b => if b.units = 0 then nan else infinite (s != t)
  | finite s a, infinite t => if a.units = 0 then nan else infinite (s != t)
  | finite s a, finite t b => ofUnits (s != t) (a.units * b.units) unitsPerOne

/-- A finite number other than zero over zero is infinite. -/
def div : Double → Double → Double
  | nan, _ | _, nan => nan
  | infinite _, infinite _ => nan
  | infinite s, finite t _ => infinite (s != t)
  | finite s _, infinite t => zero (s != t)
  | finite s a, finite t b =>
    if b.units = 0 then
      if a.units = 0 then nan else infinite (s != t)
    else
      ofUnits (s != t) (a.units * unitsPerOne) b.units

/-- The remainder is exact, and keeps the sign of the dividend. -/
def rem : Double → Double → Double
  | nan, _ | _, nan => nan
  | infinite _, _ => nan
  | finite s a, infinite _ => finite s a
  | finite s a, finite _ b => if b.units = 0 then nan else ofUnits s (a.units % b.units) 1

/-- The order of two numbers. The zeros are equal, and not-a-number has no
    place in the order. -/
def order : Double → Double → Option Ordering
  | nan, _ | _, nan => none
  | infinite s, infinite t => some (compare t.toNat s.toNat)
  | infinite s, finite _ _ => some (if s then .lt else .gt)
  | finite _ _, infinite t => some (if t then .gt else .lt)
  | finite s a, finite t b => some (compare (signedUnits s a) (signedUnits t b))

/-- The integer left when the fraction is dropped. -/
def truncate (negative : Bool) (m : Magnitude) : Int :=
  let whole := m.units / unitsPerOne
  if negative then -(whole : Int) else whole

/-- The nearest word after the fraction is dropped: numbers beyond the words go
    to the last one on their side, not-a-number to zero. -/
def toInt64 : Double → Int64
  | nan => 0
  | infinite true => Int64.minValue
  | infinite false => Int64.maxValue
  | finite s m =>
    let n := truncate s m
    if n < Int64.minValue.toInt then Int64.minValue
    else if Int64.maxValue.toInt < n then Int64.maxValue
    else Int64.ofInt n

instance : Neg Double := ⟨neg⟩
instance : Add Double := ⟨add⟩
instance : Sub Double := ⟨sub⟩
instance : Mul Double := ⟨mul⟩
instance : Div Double := ⟨div⟩
instance : Mod Double := ⟨rem⟩

end Double

end ScalarExpr

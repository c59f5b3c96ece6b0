import ScalarExpr.Decimal.Numeral
/-!
# The shortest decimal of a number

A finite number is written with the fewest digits that read back to it. For
0, 1, 2, … digits the two neighbours of the number on that decimal grid are
tried; the first grid with a neighbour that reads back is taken, of two such
neighbours the nearer, and of two equally near the greater.

## Main definitions

- `Decimal` — digits and a power of ten
- `Magnitude.shortest` — the decimal chosen for a magnitude
- `Decimal.text` — its positional writing
- `Double.text` — the writing of any number

## Main statements

- `Magnitude.shortest_readsBack`: what is chosen reads back

## Design notes

No grid finer than seventeen digits is needed in practice. Should none of them
hold a neighbour that reads back, the exact decimal expansion is written, so
that the statement above needs no bound on digits.
-/

namespace ScalarExpr

/-- The decimal `digits * 10 ^ exponent`. -/
structure Decimal where
  digits : Nat
  exponent : Int
deriving DecidableEq

namespace Decimal

/-- A decimal reads back to a magnitude if that is the nearest one to it. -/
def ReadsBack (d : Decimal) (m : Magnitude) : Prop :=
  Double.ofDecimal false d.digits d.exponent = .finite false m

instance (d : Decimal) (m : Magnitude) : Decidable (d.ReadsBack m) :=
  inferInstanceAs (Decidable (_ = _))

/-- Positional writing, without an exponent: no point in a whole number, and
    at least one digit on each side of a point. -/
def text (d : Decimal) : List Char :=
  if 0 ≤ d.exponent then
    Nat.toDigits 10 (d.digits * powerOfTen d.exponent.toNat)
  else
    let places := (-d.exponent).toNat
    let digits := Nat.toDigits 10 d.digits
    let padded := List.replicate (places + 1 - digits.length) '0' ++ digits
    padded.take (padded.length - places) ++ '.' :: padded.drop (padded.length - places)

end Decimal

namespace Magnitude

/-- Whether a magnitude is below `10 ^ k`. -/
def isBelowPowerOfTen (m : Magnitude) (k : Int) : Bool :=
  m.units * powerOfTen (-k).toNat < powerOfTen k.toNat * unitsPerOne

/-- The least power of ten above a magnitude other than zero, found near its
    binary logarithm times `log 2 / log 10`. -/
def leadingExponent (m : Magnitude) : Int :=
  let estimate := Int.fdiv (((m.units.log2 : Int) - 1074) * 30103) 100000
  (([-1, 0, 1, 2].map (estimate + ·)).find? m.isBelowPowerOfTen).getD (estimate + 3)

/-- The neighbour of a magnitude on the grid `10 ^ exponent` that reads back:
    the nearer if both do, the greater of two equally near. -/
def neighbour? (m : Magnitude) (exponent : Int) : Option Decimal :=
  let num := m.units * powerOfTen (-exponent).toNat
  let den := powerOfTen exponent.toNat * unitsPerOne
  let below : Decimal := ⟨num / den, exponent⟩
  let above : Decimal := ⟨num / den + 1, exponent⟩
  if below.ReadsBack m ∧ ¬ (above.ReadsBack m ∧ den ≤ 2 * (num % den)) then some below
  else if above.ReadsBack m then some above
  else none

/-- The exact decimal expansion. -/
def exact (m : Magnitude) : Decimal := ⟨m.units * Nat.pow 5 unitExponent, -unitExponent⟩

/-- The decimal with the fewest digits that reads back. -/
def shortest (m : Magnitude) : Decimal :=
  if m.units = 0 then ⟨0, 0⟩
  else
    ((List.range 18).findSome? fun (count : Nat) =>
      m.neighbour? (m.leadingExponent - count)).getD m.exact

theorem readsBack_of_neighbour? {m : Magnitude} {exponent : Int} {d : Decimal}
    (h : m.neighbour? exponent = some d) : d.ReadsBack m := by
  simp only [neighbour?] at h
  split at h
  · rename_i hb
    cases h
    exact hb.1
  · split at h
    · rename_i ha
      cases h
      exact ha
    · exact nomatch h

theorem readsBack_exact (m : Magnitude) : m.exact.ReadsBack m := by
  have hten : Nat.pow 5 unitExponent * unitsPerOne = powerOfTen unitExponent := by
    rw [powerOfTen_eq_shiftLeft, unitsPerOne, Nat.shiftLeft_eq, Nat.shiftLeft_eq, Nat.one_mul]
  have hexp : (-(unitExponent : Int)).toNat = 0 := Int.toNat_neg_natCast _
  have hscale := Double.ofUnits_mul_mul_right false m.units 1 _ (powerOfTen_pos unitExponent)
  simp only [Decimal.ReadsBack, exact, Double.ofDecimal, hexp, Int.neg_neg, Int.toNat_natCast,
    powerOfTen_zero, Nat.mul_one, Nat.mul_assoc, hten]
  rw [Nat.one_mul] at hscale
  rw [hscale, Double.ofUnits_magnitude]

/-- The decimal chosen reads back. -/
theorem shortest_readsBack (m : Magnitude) : m.shortest.ReadsBack m := by
  unfold shortest
  split
  · rename_i h
    have hm : m = ⟨0, representable_zero⟩ := by
      cases m
      cases h
      rfl
    rw [hm]
    simp only [Decimal.ReadsBack, Double.ofDecimal, Nat.zero_mul, Int.neg_zero, Int.toNat_zero]
    exact Double.ofUnits_magnitude false ⟨0, representable_zero⟩
  · cases hc : (List.range 18).findSome? fun (count : Nat) =>
        m.neighbour? (m.leadingExponent - count) with
    | none => exact readsBack_exact m
    | some d =>
      obtain ⟨count, _, hcount⟩ := List.exists_of_findSome?_eq_some hc
      exact readsBack_of_neighbour? hcount

end Magnitude

/-- The writing of a number: positional, as short as reads back, the infinities
    and not-a-number by name. -/
def Double.text : Double → List Char
  | .nan => "NaN".toList
  | .infinite false => "+Inf".toList
  | .infinite true => "-Inf".toList
  | .finite false m => m.shortest.text
  | .finite true m => '-' :: m.shortest.text

end ScalarExpr

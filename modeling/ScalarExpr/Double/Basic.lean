/-!
# Binary64 numbers, exactly

Every finite binary64 number is a whole multiple of `2 ^ (-1074)`, the least
positive one. Measured in that unit a magnitude is a natural number, so sums,
remainders and comparisons are those of natural numbers, and every other
operation is an exact quotient followed by one rounding.

## Main definitions

- `Representable` — the counts of units that 53 significant bits can hold
- `Double` — a number: not-a-number, an infinity, or a sign and a magnitude
- `roundUnits` — the representable count nearest to a quotient, ties to even
- `Double.ofUnits` — the number nearest to a quotient of units

## Main statements

- `roundDiv_mul` and `roundUnits_of_representable`: rounding keeps what needs
  no rounding
- `spacing_dvd_roundUnits`: a rounded count needs no further rounding

## Design notes

A magnitude carries the proof that it is representable, so two equal numbers
of equal sign are the same term and equality is decidable.
-/

namespace ScalarExpr

/-- The number of significant bits. -/
def significantBits : Nat := 53

/-- The distance between neighbouring representable counts around `units`. -/
def spacing (units : Nat) : Nat := 1 <<< (units.log2 + 1 - significantBits)

/-- A unit is `2 ^ (-1074)`. -/
def unitExponent : Nat := 1074

/-- One, in units. -/
def unitsPerOne : Nat := 1 <<< unitExponent

/-- The least count of units that lies beyond every finite number: `2 ^ 1024`. -/
def unitsLimit : Nat := 1 <<< (1024 + unitExponent)

/-- A count of units that 53 significant bits can hold, below the limit. -/
def Representable (units : Nat) : Prop := units < unitsLimit ∧ spacing units ∣ units

instance (units : Nat) : Decidable (Representable units) :=
  inferInstanceAs (Decidable (_ ∧ _))

/-- The size of a finite number, as a representable count of units. -/
structure Magnitude where
  units : Nat
  representable : Representable units
deriving DecidableEq

/-- A binary64 number. The two zeros differ in sign; there is one not-a-number. -/
inductive Double where
  | nan
  | infinite (negative : Bool)
  | finite (negative : Bool) (magnitude : Magnitude)
deriving DecidableEq

/-- A quotient rounded to the nearest natural number, ties to even. -/
def roundDiv (num den : Nat) : Nat :=
  if 2 * (num % den) < den ∨ (2 * (num % den) = den ∧ num / den % 2 = 0) then
    num / den
  else
    num / den + 1

/-- The count nearest to the quotient that has 53 significant bits, ties to
    even. Counts below `2 ^ 53` are one unit apart. -/
def roundUnits (num den : Nat) : Nat :=
  roundDiv num (den * spacing (num / den)) * spacing (num / den)

-- ════════════════════════════════════════════════════════════════════════
-- Rounding
-- ════════════════════════════════════════════════════════════════════════

theorem significantBits_pos : 0 < significantBits := by decide

theorem unitsLimit_pos : 0 < unitsLimit := by
  rw [unitsLimit, Nat.one_shiftLeft]
  exact Nat.two_pow_pos _

theorem spacing_eq (units : Nat) : spacing units = Nat.pow 2 (units.log2 + 1 - significantBits) :=
  Nat.one_shiftLeft _

theorem spacing_pos (units : Nat) : 0 < spacing units := by
  rw [spacing_eq]
  exact Nat.two_pow_pos _

theorem representable_zero : Representable 0 := ⟨unitsLimit_pos, Nat.dvd_zero _⟩

/-- An exact quotient is kept. -/
theorem roundDiv_mul (q den : Nat) (h : 0 < den) : roundDiv (q * den) den = q := by
  simp [roundDiv, Nat.mul_div_cancel _ h, h]

/-- Rounding depends on the quotient only, not on how it is written. -/
theorem roundDiv_mul_mul_right (num den c : Nat) (h : 0 < c) :
    roundDiv (num * c) (den * c) = roundDiv num den := by
  have hlt : 2 * (num % den * c) < den * c ↔ 2 * (num % den) < den := by
    rw [← Nat.mul_assoc, Nat.mul_lt_mul_right h]
  have heq : 2 * (num % den * c) = den * c ↔ 2 * (num % den) = den := by
    rw [← Nat.mul_assoc, Nat.mul_left_inj (Nat.ne_of_gt h)]
  simp only [roundDiv, Nat.mul_div_mul_right _ _ h, Nat.mul_mod_mul_right, hlt, heq]

theorem roundUnits_mul_mul_right (num den c : Nat) (h : 0 < c) :
    roundUnits (num * c) (den * c) = roundUnits num den := by
  rw [roundUnits, roundUnits, Nat.mul_div_mul_right _ _ h, Nat.mul_right_comm,
    roundDiv_mul_mul_right _ _ _ h]

/-- A rounded quotient is the quotient rounded down, or the next number. -/
theorem roundDiv_eq_or (num den : Nat) :
    roundDiv num den = num / den ∨ roundDiv num den = num / den + 1 := by
  unfold roundDiv
  split <;> simp

/-- Rounding keeps a count that is a multiple of its own spacing. -/
theorem roundUnits_of_spacing_dvd {units : Nat} (h : spacing units ∣ units) :
    roundUnits units 1 = units := by
  obtain ⟨k, hk⟩ := h
  have hd : units / 1 = units := Nat.div_one units
  rw [roundUnits, hd, Nat.one_mul]
  calc roundDiv units (spacing units) * spacing units
      = roundDiv (k * spacing units) (spacing units) * spacing units := by
        rw [Nat.mul_comm k, ← hk]
    _ = k * spacing units := by rw [roundDiv_mul k _ (spacing_pos units)]
    _ = units := by rw [Nat.mul_comm, ← hk]

theorem roundUnits_of_representable {units : Nat} (h : Representable units) :
    roundUnits units 1 = units :=
  roundUnits_of_spacing_dvd h.2

/-- A number shifted to the left is a multiple of its own spacing, if it has no
    more than the significant bits or is the power of two above them. -/
theorem spacing_dvd_shiftLeft {r s : Nat} (h : r ≤ 1 <<< significantBits) :
    spacing (r <<< s) ∣ r <<< s := by
  rw [Nat.one_shiftLeft] at h
  rw [spacing_eq, Nat.shiftLeft_eq]
  rcases Nat.eq_zero_or_pos r with rfl | hr
  · simp
  have hne : r * 2 ^ s ≠ 0 := Nat.ne_of_gt (Nat.mul_pos hr (Nat.two_pow_pos s))
  rcases Nat.lt_or_eq_of_le h with hlt | rfl
  · have hlog : (r * 2 ^ s).log2 < significantBits + s := by
      rw [Nat.log2_lt hne, Nat.pow_add]
      exact (Nat.mul_lt_mul_right (Nat.two_pow_pos s)).2 hlt
    exact Nat.dvd_trans (Nat.pow_dvd_pow 2 (by omega)) (Nat.dvd_mul_left _ _)
  · have hlog : (2 ^ significantBits * 2 ^ s).log2 < significantBits + 1 + s := by
      rw [Nat.log2_lt hne, ← Nat.pow_add]
      exact Nat.pow_lt_pow_right (by decide) (by omega)
    rw [← Nat.pow_add]
    rw [← Nat.pow_add] at hlog
    have hbits := significantBits_pos
    exact Nat.pow_dvd_pow 2 (by omega)

/-- A rounded count has no more than the significant bits. -/
theorem spacing_dvd_roundUnits (num den : Nat) :
    spacing (roundUnits num den) ∣ roundUnits num den := by
  have hq : num / (den * spacing (num / den)) < 1 <<< significantBits := by
    rw [← Nat.div_div_eq_div_mul]
    generalize num / den = q
    rw [Nat.div_lt_iff_lt_mul (spacing_pos q), spacing, Nat.one_shiftLeft, Nat.one_shiftLeft,
      ← Nat.pow_add]
    exact Nat.lt_of_lt_of_le Nat.lt_log2_self (Nat.pow_le_pow_right (by decide) (by omega))
  have hr := roundDiv_eq_or num (den * spacing (num / den))
  have hshift : roundUnits num den =
      roundDiv num (den * spacing (num / den)) <<<
        ((num / den).log2 + 1 - significantBits) := by
    rw [Nat.shiftLeft_eq, roundUnits]
    exact congrArg _ (spacing_eq _)
  rw [hshift]
  exact spacing_dvd_shiftLeft (by omega)

namespace Double

/-- Zero of either sign. -/
def zero (negative : Bool) : Double := .finite negative ⟨0, representable_zero⟩

/-- The number nearest to `num / den` units, ties to even; an infinity when the
    rounded count passes the limit. -/
def ofUnits (negative : Bool) (num den : Nat) : Double :=
  if h : roundUnits num den < unitsLimit then
    .finite negative ⟨roundUnits num den, h, spacing_dvd_roundUnits num den⟩
  else
    .infinite negative

/-- The number nearest to an integer; zero has a clear sign. -/
def ofInt (n : Int) : Double := ofUnits (n < 0) (n.natAbs * unitsPerOne) 1

instance (n : Nat) : OfNat Double n := ⟨ofInt n⟩

def isNaN : Double → Bool
  | nan => true
  | _ => false

/-- Exactly the two zeros. -/
def isZero : Double → Bool
  | finite _ m => m.units == 0
  | _ => false

theorem ofUnits_mul_mul_right (negative : Bool) (num den c : Nat) (h : 0 < c) :
    ofUnits negative (num * c) (den * c) = ofUnits negative num den := by
  simp only [ofUnits, roundUnits_mul_mul_right _ _ _ h]

/-- A representable count is its own nearest number. -/
theorem ofUnits_magnitude (negative : Bool) (m : Magnitude) :
    ofUnits negative m.units 1 = .finite negative m := by
  have h := roundUnits_of_representable m.representable
  simp [ofUnits, h, m.representable.1]

end Double

end ScalarExpr

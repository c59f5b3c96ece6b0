import ScalarExpr.Decimal.Shortest
/-!
# Decimal numbers read back

A decimal is written as digits, or as digits on both sides of a point. The
numeral that this text spells stands for the same number, so the text of a
finite number with a clear sign reads back to that number.

## Main definitions

- `Decimal.whole`, `Decimal.fraction` — the digits before and after the point
- `Decimal.point` — a point before digits, if there are any

## Main statements

- `Decimal.text_eq`: the text of a decimal by its parts
- `Numeral.read?_text`: the numeral that the text of a decimal spells
- `Double.read?_text`: the text of a finite number reads back
-/

namespace ScalarExpr

namespace Decimal

/-- The digits of a decimal with a negative exponent, with zeros before them so
    that at least one stands before the point. -/
def padded (d : Decimal) : List Char :=
  List.replicate ((-d.exponent).toNat + 1 - (Nat.toDigits 10 d.digits).length) '0' ++
    Nat.toDigits 10 d.digits

/-- The digits before the point. -/
def whole (d : Decimal) : List Char :=
  if 0 ≤ d.exponent then Nat.toDigits 10 (d.digits * powerOfTen d.exponent.toNat)
  else d.padded.take (d.padded.length - (-d.exponent).toNat)

/-- The digits after the point. -/
def fraction (d : Decimal) : List Char :=
  if 0 ≤ d.exponent then [] else d.padded.drop (d.padded.length - (-d.exponent).toNat)

/-- A point before digits, if there are any. -/
def point : List Char → List Char
  | [] => []
  | c :: cs => '.' :: c :: cs

theorem places_lt_length_padded (d : Decimal) : (-d.exponent).toNat < d.padded.length := by
  rw [padded, List.length_append, List.length_replicate]
  omega

theorem isDigit_of_mem_toDigits {n : Nat} {c : Char} (h : c ∈ Nat.toDigits 10 n) : c.isDigit :=
  Nat.isDigit_of_mem_toDigits (by decide) (by decide) h

theorem isDigit_of_mem_padded {d : Decimal} {c : Char} (h : c ∈ d.padded) : c.isDigit := by
  rcases List.mem_append.1 h with h | h
  · rw [(List.mem_replicate.1 h).2]
    rfl
  · exact isDigit_of_mem_toDigits h

theorem isDigit_of_mem_whole {d : Decimal} {c : Char} (h : c ∈ d.whole) : c.isDigit := by
  unfold whole at h
  split at h
  · exact isDigit_of_mem_toDigits h
  · exact isDigit_of_mem_padded (List.mem_of_mem_take h)

theorem isDigit_of_mem_fraction {d : Decimal} {c : Char} (h : c ∈ d.fraction) : c.isDigit := by
  unfold fraction at h
  split at h
  · exact absurd h List.not_mem_nil
  · exact isDigit_of_mem_padded (List.mem_of_mem_drop h)

theorem whole_ne_nil (d : Decimal) : d.whole ≠ [] := by
  unfold whole
  split
  · exact Nat.toDigits_ne_nil
  · have hplaces := d.places_lt_length_padded
    rw [← List.length_pos_iff, List.length_take]
    omega

theorem length_fraction (d : Decimal) : d.fraction.length = (-d.exponent).toNat := by
  unfold fraction
  split
  · rw [List.length_nil]
    omega
  · have hplaces := d.places_lt_length_padded
    rw [List.length_drop]
    omega

theorem text_eq (d : Decimal) : d.text = d.whole ++ point d.fraction := by
  have hlength := d.length_fraction
  unfold text whole
  split
  · rename_i h
    rw [fraction, if_pos h, point, List.append_nil]
  · rename_i h
    cases hf : d.fraction with
    | nil =>
      rw [hf, List.length_nil] at hlength
      omega
    | cons c cs =>
      rw [fraction, if_neg h] at hf
      rw [point, ← hf]
      rfl

/-- The text of a decimal starts with a digit and holds digits and a point only. -/
theorem exists_text_eq_cons (d : Decimal) : ∃ c tail, d.text = c :: tail ∧ c.isDigit := by
  obtain ⟨c, tail, hwhole⟩ := List.exists_cons_of_ne_nil d.whole_ne_nil
  have hc : c.isDigit := isDigit_of_mem_whole (hwhole ▸ List.mem_cons_self)
  exact ⟨c, tail ++ point d.fraction, by rw [d.text_eq, hwhole, List.cons_append], hc⟩

theorem isDigit_or_eq_of_mem_text {d : Decimal} {c : Char} (h : c ∈ d.text) :
    c.isDigit ∨ c = '.' := by
  rw [d.text_eq, List.mem_append] at h
  rcases h with h | h
  · exact .inl (isDigit_of_mem_whole h)
  · have hpoint : c = '.' ∨ c ∈ d.fraction := by
      cases hfraction : d.fraction with
      | nil =>
        rw [hfraction] at h
        exact absurd h List.not_mem_nil
      | cons c' cs =>
        rw [hfraction] at h
        exact List.mem_cons.1 h
    rcases hpoint with rfl | hc
    · exact .inr rfl
    · exact .inl (isDigit_of_mem_fraction hc)

/-- The digits on both sides spell the digits of the decimal, or its value if it
    is whole. -/
theorem ofDigitChars_whole_append_fraction (d : Decimal) :
    Nat.ofDigitChars 10 (d.whole ++ d.fraction) 0 = d.digits * powerOfTen d.exponent.toNat := by
  unfold whole fraction
  split
  · rw [List.append_nil, Nat.ofDigitChars_ten_toDigits]
  · rename_i h
    have hexponent : d.exponent.toNat = 0 := by omega
    rw [List.take_append_drop, padded, Nat.ofDigitChars_append, Nat.ofDigitChars_replicate_zero,
      Nat.mul_zero, Nat.ofDigitChars_ten_toDigits, hexponent, powerOfTen_zero, Nat.mul_one]

end Decimal

namespace Numeral

theorem readDigits_append {digits : List Char} (h : ∀ c ∈ digits, c.isDigit)
    (rest : List Char) (hrest : ∀ c ∈ rest.head?, ¬ c.isDigit) :
    readDigits (digits ++ rest) = (digits, rest) := by
  rw [readDigits, List.takeWhile_append_of_pos h, List.dropWhile_append_of_pos h]
  cases rest with
  | nil => simp
  | cons c cs => simp [hrest c rfl]

theorem readSign_of_isDigit {c : Char} (h : c.isDigit) (cs : List Char) :
    readSign (c :: cs) = (false, c :: cs) := by
  unfold readSign
  split
  · rename_i heq
    cases heq
    cases h
  · rename_i heq
    cases heq
    cases h
  · rfl

theorem readFraction_point {digits : List Char} (h : ∀ c ∈ digits, c.isDigit) :
    readFraction (Decimal.point digits) = (digits, []) := by
  cases digits with
  | nil => rfl
  | cons c cs =>
    have hdigits := readDigits_append h [] fun _ h => nomatch h
    rwa [List.append_nil] at hdigits

theorem read?_text (d : Decimal) : read? d.text = some ⟨false, d.whole, d.fraction, 0⟩ := by
  have hsign : readSign d.text = (false, d.whole ++ Decimal.point d.fraction) := by
    rw [d.text_eq]
    obtain ⟨c, cs, hwhole⟩ := List.exists_cons_of_ne_nil d.whole_ne_nil
    have hc : c.isDigit := Decimal.isDigit_of_mem_whole (hwhole ▸ List.mem_cons_self)
    rw [hwhole]
    exact readSign_of_isDigit hc _
  have hwhole : readDigits (d.whole ++ Decimal.point d.fraction) =
      (d.whole, Decimal.point d.fraction) := by
    refine readDigits_append (fun c hc => Decimal.isDigit_of_mem_whole hc) _ fun c hc => ?_
    cases hfraction : d.fraction with
    | nil =>
      rw [hfraction] at hc
      cases hc
    | cons c' cs =>
      rw [hfraction] at hc
      cases hc
      decide
  have hfraction := readFraction_point fun c hc => Decimal.isDigit_of_mem_fraction (d := d) hc
  simp only [read?, hsign, hwhole, hfraction, readExponent?, d.whole_ne_nil, false_and, if_false,
    Option.map_some]

/-- That numeral stands for the decimal: its exponent is no larger than its digits
    are many, so it is not confined. -/
theorem toDouble_text (d : Decimal) :
    (Numeral.mk false d.whole d.fraction 0).toDouble = .ofDecimal false d.digits d.exponent := by
  have hconfined : max (-(((d.whole ++ d.fraction).length : Int) + 400))
      (min (0 - (d.fraction.length : Int)) 400) = -((-d.exponent).toNat : Int) := by
    rw [List.length_append, d.length_fraction]
    omega
  simp only [toDouble, digits, d.ofDigitChars_whole_append_fraction, hconfined,
    Double.ofDecimal, Int.neg_neg, Int.toNat_natCast, Int.toNat_neg_natCast, powerOfTen_zero,
    Nat.mul_one]

end Numeral

/-- The text of a finite number with a clear sign reads back to it. -/
theorem Double.read?_text (m : Magnitude) :
    (Numeral.read? (Double.finite false m).text).map Numeral.toDouble = some (.finite false m) := by
  rw [Double.text, Numeral.read?_text, Option.map_some, Numeral.toDouble_text]
  exact congrArg some m.shortest_readsBack

end ScalarExpr

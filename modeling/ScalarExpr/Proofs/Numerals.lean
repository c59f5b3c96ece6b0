import ScalarExpr.Proofs.DecimalText
/-!
# The grammar of numerals

A numeral is a sign, digits, a point with digits behind it, and an exponent. The sign,
the point and the exponent may be missing, and there is a digit before the point or
behind it. The reader of numerals accepts the texts of this grammar and no others.

## Main definitions

- `Numeral.Sign`, `Numeral.Fraction`, `Numeral.Exponent` — the parts that may be missing
- `Numeral.Spells` — the texts that spell a numeral

## Main statements

- `Numeral.read?_eq_some_iff`: a text is read as the numeral that it spells
- `Numeral.Spells.neg`, `Numeral.toDouble_neg`: a minus before a numeral with a clear sign
-/

namespace ScalarExpr

namespace Numeral

/-- The signs of a number and their writings. -/
inductive Sign : Bool → List Char → Prop where
  | absent : Sign false []
  | plus : Sign false ['+']
  | minus : Sign true ['-']

/-- The digits behind a point, and the writings of both. A point may stand before no
    digits. -/
inductive Fraction : List Char → List Char → Prop where
  | absent : Fraction [] []
  | point {digits : List Char} (hdigits : ∀ c ∈ digits, c.isDigit) :
    Fraction digits ('.' :: digits)

/-- The powers of ten and their writings. -/
inductive Exponent : Int → List Char → Prop where
  | absent : Exponent 0 []
  | marked {mark : Char} {negative : Bool} {sign digits : List Char}
    (hmark : mark = 'e' ∨ mark = 'E') (hsign : Sign negative sign) (hne : digits ≠ [])
    (hdigits : ∀ c ∈ digits, c.isDigit) :
    Exponent (if negative then -(Nat.ofDigitChars 10 digits 0 : Int)
      else Nat.ofDigitChars 10 digits 0) (mark :: (sign ++ digits))

/-- The texts that spell a numeral. -/
inductive Spells (n : Numeral) : List Char → Prop where
  | parts {sign fraction exponent : List Char} (hsign : Sign n.negative sign)
    (hwhole : ∀ c ∈ n.whole, c.isDigit) (hfraction : Fraction n.fraction fraction)
    (hdigit : ¬ (n.whole = [] ∧ n.fraction = [])) (hexponent : Exponent n.exponent exponent) :
    Spells n (sign ++ (n.whole ++ (fraction ++ exponent)))

-- ════════════════════════════════════════════════════════════════════════
-- What is read is spelled
-- ════════════════════════════════════════════════════════════════════════

theorem exists_sign_of_readSign (cs : List Char) :
    ∃ sign, Sign (readSign cs).1 sign ∧ cs = sign ++ (readSign cs).2 := by
  unfold readSign
  split
  · exact ⟨_, .plus, rfl⟩
  · exact ⟨_, .minus, rfl⟩
  · exact ⟨_, .absent, rfl⟩

theorem readDigits_spec (cs : List Char) :
    (∀ c ∈ (readDigits cs).1, c.isDigit) ∧ cs = (readDigits cs).1 ++ (readDigits cs).2 :=
  ⟨fun c hc => List.all_eq_true.1 List.all_takeWhile c hc,
    List.takeWhile_append_dropWhile.symm⟩

theorem exists_fraction_of_readFraction (cs : List Char) :
    ∃ fraction, Fraction (readFraction cs).1 fraction ∧ cs = fraction ++ (readFraction cs).2 := by
  unfold readFraction
  split
  · rename_i cs
    obtain ⟨hdigits, hsplit⟩ := readDigits_spec cs
    exact ⟨_, .point hdigits, congrArg ('.' :: ·) hsplit⟩
  · exact ⟨_, .absent, rfl⟩

theorem exponent_of_readExponent? {cs : List Char} {e : Int} (h : readExponent? cs = some e) :
    Exponent e cs := by
  cases cs with
  | nil =>
    cases h
    exact .absent
  | cons mark cs =>
    obtain ⟨sign, hsign, hsplit⟩ := exists_sign_of_readSign cs
    simp only [readExponent?] at h
    split at h
    · rename_i hmark
      cases h
      obtain ⟨hmark, hne, hdigits⟩ := hmark
      have hmarked := Exponent.marked hmark hsign hne (List.all_eq_true.1 hdigits)
      rwa [← hsplit] at hmarked
    · cases h

theorem spells_of_read? {cs : List Char} {n : Numeral} (h : read? cs = some n) : n.Spells cs := by
  obtain ⟨sign, hsign, hcs⟩ := exists_sign_of_readSign cs
  obtain ⟨hwhole, hbehind⟩ := readDigits_spec (readSign cs).2
  obtain ⟨fraction, hfraction, hexponent⟩ :=
    exists_fraction_of_readFraction (readDigits (readSign cs).2).2
  simp only [read?] at h
  split at h
  · cases h
  · rename_i hdigit
    obtain ⟨e, he, rfl⟩ := Option.map_eq_some_iff.1 h
    have hspells := Spells.parts (n := ⟨_, _, _, e⟩) hsign hwhole hfraction hdigit
      (exponent_of_readExponent? he)
    rwa [← hexponent, ← hbehind, ← hcs] at hspells

-- ════════════════════════════════════════════════════════════════════════
-- What is spelled is read
-- ════════════════════════════════════════════════════════════════════════

theorem readSign_append {negative : Bool} {sign rest : List Char} (h : Sign negative sign)
    (hrest : ∀ c ∈ rest.head?, c ≠ '+' ∧ c ≠ '-') : readSign (sign ++ rest) = (negative, rest) := by
  cases h with
  | plus | minus => rfl
  | absent =>
    cases rest with
    | nil => rfl
    | cons c rest =>
      obtain ⟨hplus, hminus⟩ := hrest c rfl
      rw [List.nil_append, readSign]
      · exact fun _ heq => hplus (List.cons.inj heq).1
      · exact fun _ heq => hminus (List.cons.inj heq).1

theorem ne_sign_of_isDigit {c : Char} (h : c.isDigit) : c ≠ '+' ∧ c ≠ '-' := by
  constructor <;> rintro rfl <;> cases h

theorem Fraction.isDigit_or_eq {digits fraction : List Char} (h : Fraction digits fraction)
    {c : Char} (hc : c ∈ fraction) : c.isDigit ∨ c = '.' := by
  cases h with
  | absent => cases hc
  | point hdigits =>
    rcases List.mem_cons.1 hc with rfl | hc
    · exact .inr rfl
    · exact .inl (hdigits c hc)

/-- An exponent starts with its mark. -/
theorem Exponent.head {e : Int} {exponent : List Char} (h : Exponent e exponent) :
    ∀ c ∈ exponent.head?, c = 'e' ∨ c = 'E' := by
  intro c hc
  cases h with
  | absent => cases hc
  | marked hmark =>
    cases hc
    exact hmark

theorem readExponent?_of_exponent {e : Int} {cs : List Char} (h : Exponent e cs) :
    readExponent? cs = some e := by
  cases h with
  | absent => rfl
  | @marked mark negative sign digits hmark hsign hne hdigits =>
    have hread : readSign (sign ++ digits) = (negative, digits) := by
      refine readSign_append hsign fun c hc => ne_sign_of_isDigit (hdigits c ?_)
      exact List.mem_of_mem_head? hc
    simp only [readExponent?, hread]
    rw [if_pos ⟨hmark, hne, List.all_eq_true.2 hdigits⟩]

theorem readFraction_append {digits fraction exponent : List Char} {e : Int}
    (h : Fraction digits fraction) (hexponent : Exponent e exponent) :
    readFraction (fraction ++ exponent) = (digits, exponent) := by
  cases h with
  | absent =>
    cases exponent with
    | nil => rfl
    | cons mark exponent =>
      rw [List.nil_append, readFraction]
      intro cs heq
      cases heq
      rcases hexponent.head '.' rfl with hmark | hmark <;> cases hmark
  | point hdigits =>
    refine readDigits_append hdigits exponent fun c hc => ?_
    rcases hexponent.head c hc with rfl | rfl <;> decide

/-- Behind the digits before the point stands no digit. -/
theorem not_isDigit_of_head {digits fraction exponent : List Char} {e : Int}
    (h : Fraction digits fraction) (hexponent : Exponent e exponent) :
    ∀ c ∈ (fraction ++ exponent).head?, ¬ c.isDigit := by
  intro c hc
  cases h with
  | absent => rcases hexponent.head c hc with rfl | rfl <;> decide
  | point =>
    cases hc
    decide

/-- Behind the sign stands a digit or the point. -/
theorem ne_sign_of_head {whole digits fraction : List Char} (hwhole : ∀ c ∈ whole, c.isDigit)
    (h : Fraction digits fraction) (hdigit : ¬ (whole = [] ∧ digits = [])) (exponent : List Char) :
    ∀ c ∈ (whole ++ (fraction ++ exponent)).head?, c ≠ '+' ∧ c ≠ '-' := by
  intro c hc
  cases whole with
  | cons d whole =>
    cases hc
    exact ne_sign_of_isDigit (hwhole _ List.mem_cons_self)
  | nil =>
    cases h with
    | absent => exact absurd ⟨rfl, rfl⟩ hdigit
    | point =>
      cases hc
      decide

theorem read?_of_spells {cs : List Char} {n : Numeral} (h : n.Spells cs) : read? cs = some n := by
  cases h with
  | @parts sign fraction exponent hsign hwhole hfraction hdigit hexponent =>
    have hhead := ne_sign_of_head hwhole hfraction hdigit exponent
    have hbehind := not_isDigit_of_head hfraction hexponent
    simp only [read?, readSign_append hsign hhead, readDigits_append hwhole _ hbehind,
      readFraction_append hfraction hexponent, if_neg hdigit, readExponent?_of_exponent hexponent,
      Option.map_some]

/-- A text is read as the numeral that it spells, and spells no other one. -/
theorem read?_eq_some_iff {cs : List Char} {n : Numeral} : read? cs = some n ↔ n.Spells cs :=
  ⟨spells_of_read?, read?_of_spells⟩

-- ════════════════════════════════════════════════════════════════════════
-- A minus before a numeral
-- ════════════════════════════════════════════════════════════════════════

/-- The numeral of the opposite sign. -/
def neg (n : Numeral) : Numeral := { n with negative := !n.negative }

/-- No sign stands before a text that starts with a digit. -/
theorem Sign.eq_absent {negative : Bool} {sign rest cs : List Char} {c : Char}
    (h : Sign negative sign) (htext : c :: cs = sign ++ rest) (hc : c.isDigit) :
    negative = false ∧ sign = [] := by
  obtain ⟨hplus, hminus⟩ := ne_sign_of_isDigit hc
  cases h with
  | absent => exact ⟨rfl, rfl⟩
  | plus => exact absurd (List.cons.inj htext).1 hplus
  | minus => exact absurd (List.cons.inj htext).1 hminus

/-- A minus before a text that starts with a digit makes its numeral negative. -/
theorem Spells.neg {n : Numeral} {c : Char} {cs : List Char} (h : n.Spells (c :: cs))
    (hc : c.isDigit) : n.neg.Spells ('-' :: c :: cs) := by
  generalize htext : c :: cs = text at h
  cases h with
  | @parts sign fraction exponent hsign hwhole hfraction hdigit hexponent =>
    obtain ⟨hclear, rfl⟩ := hsign.eq_absent htext hc
    have hminus : Sign n.neg.negative ['-'] := by
      rw [Numeral.neg, hclear]
      exact .minus
    exact .parts hminus hwhole hfraction hdigit hexponent

end Numeral

theorem Double.ofUnits_not (negative : Bool) (num den : Nat) :
    ofUnits (!negative) num den = (ofUnits negative num den).neg := by
  unfold ofUnits
  split <;> rfl

/-- The sign of a numeral is the sign of the number that it stands for. -/
theorem Numeral.toDouble_neg (n : Numeral) : n.neg.toDouble = n.toDouble.neg :=
  Double.ofUnits_not n.negative _ _

end ScalarExpr

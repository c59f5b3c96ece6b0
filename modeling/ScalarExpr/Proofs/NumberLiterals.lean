import Mathlib.Data.Nat.Digits.Defs
import ScalarExpr.Operand.Coercion
import ScalarExpr.Proofs.Locality
import ScalarExpr.Proofs.Numerals
import ScalarExpr.Regex.Dialect
/-!
# Number literals and the numbers of texts

A number is read from a text in two ways: as a literal of an expression, and as the
number of a text that is an operand. The first takes as many characters as may belong
to a number, the second takes all of them. A word that starts with a digit is a single
number literal exactly if it has a number as a text, and that number is the same.

## Main definitions

- `Lexer.DigitWord` — a text without white space and commas that starts with a digit
- `Lexer.HexMarked` — a text that starts like a hexadecimal literal
- `Lexer.Hexadecimal` — a text that is `0x` and hexadecimal digits

## Main statements

- `Text.hexValue_lt_iff`: sixteen significant digits are those that fit 64 bits
- `Lexer.numberRun_of_read?`: a numeral is one run
- `Lexer.readNumber_eq_ok_nil_iff`: what is read up to the end of a text
- `tokenize_eq_number_iff`: the number literals and the numbers of texts agree
-/

namespace ScalarExpr

-- ════════════════════════════════════════════════════════════════════════
-- Hexadecimal digits
-- ════════════════════════════════════════════════════════════════════════

namespace Text

theorem hexDigit_cases {c : Char} (h : isHexDigit c) :
    (48 ≤ c.toNat ∧ c.toNat ≤ 57 ∧ hexDigitValue c = c.toNat - 48) ∨
    (97 ≤ c.toNat ∧ c.toNat ≤ 102 ∧ hexDigitValue c = c.toNat - 97 + 10) ∨
    (65 ≤ c.toNat ∧ c.toNat ≤ 70 ∧ hexDigitValue c = c.toNat - 65 + 10) := by
  by_cases hdigit : c.isDigit
  · obtain ⟨hfirst, hlast⟩ := Char.isDigit_iff_toNat.1 hdigit
    exact .inl ⟨hfirst, hlast, if_pos hdigit⟩
  have hnot : ¬ (48 ≤ c.toNat ∧ c.toNat ≤ 57) :=
    fun hrange => hdigit (Char.isDigit_iff_toNat.2 hrange)
  simp only [isHexDigit, hdigit, Bool.false_or, Bool.or_eq_true, Bool.and_eq_true,
    decide_eq_true_eq] at h
  rcases h with ⟨hfirst, hlast⟩ | ⟨hfirst, hlast⟩
  · exact .inr (.inl ⟨hfirst, hlast, by rw [hexDigitValue, if_neg hdigit, if_pos hfirst]; rfl⟩)
  · have hlast' : c.toNat ≤ 70 := hlast
    have hlower : ¬ 'a' ≤ c := fun hlower => by
      have hlower' : 97 ≤ c.toNat := hlower
      omega
    exact .inr (.inr ⟨hfirst, hlast, by rw [hexDigitValue, if_neg hdigit, if_neg hlower]; rfl⟩)

theorem hexDigitValue_lt {c : Char} (h : isHexDigit c) : hexDigitValue c < 16 := by
  have hcases := hexDigit_cases h
  omega

theorem hexDigitValue_pos {c : Char} (h : isHexDigit c) (hzero : c ≠ '0') :
    0 < hexDigitValue c := by
  have hne : c.toNat ≠ 48 := fun heq => hzero (Char.toNat_inj.1 heq)
  have hcases := hexDigit_cases h
  omega

theorem isAlphanum_of_isHexDigit {c : Char} (h : isHexDigit c) : c.isAlphanum := by
  rcases hexDigit_cases h with ⟨hfirst, hlast, _⟩ | ⟨hfirst, hlast, _⟩ | ⟨hfirst, hlast, _⟩
  · exact Bool.or_eq_true_iff.2 (.inr (Char.isDigit_iff_toNat.2 ⟨hfirst, hlast⟩))
  · have hlast : c.val ≤ 'z'.val := Nat.le_trans hlast (by decide : 102 ≤ 122)
    have hlower : c.isLower := Bool.and_eq_true_iff.2 ⟨decide_eq_true hfirst, decide_eq_true hlast⟩
    exact Bool.or_eq_true_iff.2 (.inl (Bool.or_eq_true_iff.2 (.inr hlower)))
  · have hlast : c.val ≤ 'Z'.val := Nat.le_trans hlast (by decide : 70 ≤ 90)
    have hupper : c.isUpper := decide_eq_true ⟨hfirst, hlast⟩
    exact Bool.or_eq_true_iff.2 (.inl (Bool.or_eq_true_iff.2 (.inl hupper)))

theorem foldl_hexDigitValue (digits : List Char) (before : Nat) :
    digits.foldl (fun n c => 16 * n + hexDigitValue c) before =
      Nat.ofDigits 16 (digits.map hexDigitValue).reverse + 16 ^ digits.length * before := by
  induction digits generalizing before with
  | nil => simp
  | cons c digits ih =>
    rw [List.foldl_cons, ih, List.map_cons, List.reverse_cons, Nat.ofDigits_append,
      Nat.ofDigits_singleton, List.length_reverse, List.length_map, List.length_cons, Nat.pow_succ,
      Nat.mul_add, ← Nat.mul_assoc]
    omega

/-- Hexadecimal digits spell a number in base sixteen. -/
theorem hexValue_eq_ofDigits (digits : List Char) :
    hexValue digits = Nat.ofDigits 16 (digits.map hexDigitValue).reverse := by
  rw [hexValue, foldl_hexDigitValue, Nat.mul_zero, Nat.add_zero]

/-- Zeros before the other digits do not count. -/
theorem hexValue_dropWhile (digits : List Char) :
    hexValue (digits.dropWhile (· = '0')) = hexValue digits := by
  induction digits with
  | nil => rfl
  | cons c digits ih =>
    by_cases hc : c = '0'
    · rw [hc]
      exact ih
    · rw [List.dropWhile_cons_of_neg (by simpa using hc)]

theorem hexValue_lt {digits : List Char} (h : ∀ c ∈ digits, isHexDigit c) :
    hexValue digits < 16 ^ digits.length := by
  have hlt : ∀ d ∈ (digits.map hexDigitValue).reverse, d < 16 := by
    intro d hd
    obtain ⟨c, hc, rfl⟩ := List.mem_map.1 (List.mem_reverse.1 hd)
    exact hexDigitValue_lt (h c hc)
  have hbound := Nat.ofDigits_lt_base_pow_length (by decide) hlt
  rwa [List.length_reverse, List.length_map, ← hexValue_eq_ofDigits] at hbound

/-- The first digit has the weight of all places behind it. -/
theorem pow_le_hexValue {c : Char} (hc : isHexDigit c) (hzero : c ≠ '0') (digits : List Char) :
    16 ^ digits.length ≤ hexValue (c :: digits) := by
  rw [hexValue, List.foldl_cons, foldl_hexDigitValue, Nat.mul_zero, Nat.zero_add]
  exact Nat.le_add_left_of_le (Nat.le_mul_of_pos_right _ (hexDigitValue_pos hc hzero))

/-- Digits spell a number that fits 64 bits exactly if no more than sixteen of them are
    left without the zeros before them. -/
theorem hexValue_lt_iff {digits : List Char} (h : ∀ c ∈ digits, isHexDigit c) :
    hexValue digits < UInt64.size ↔ (digits.dropWhile (· = '0')).length ≤ 16 := by
  have hsize : UInt64.size = 16 ^ 16 := by decide
  have hsignificant : ∀ c ∈ digits.dropWhile (· = '0'), isHexDigit c := fun c hc =>
    h c ((List.dropWhile_suffix _).subset hc)
  rw [← hexValue_dropWhile, hsize]
  constructor
  · intro hlt
    cases hdrop : digits.dropWhile (· = '0') with
    | nil => exact Nat.zero_le _
    | cons c others =>
      have hzero : c ≠ '0' := by
        have hhead := List.head?_dropWhile_not (· = '0') digits
        rw [hdrop] at hhead
        simpa using hhead
      rw [hdrop] at hlt hsignificant
      have hle := pow_le_hexValue (hsignificant c List.mem_cons_self) hzero others
      exact (Nat.pow_lt_pow_iff_right (by decide)).1 (Nat.lt_of_le_of_lt hle hlt)
  · intro hlength
    exact Nat.lt_of_lt_of_le (hexValue_lt hsignificant) (Nat.pow_le_pow_right (by decide) hlength)

end Text

theorem Double.ofUnits_ne_nan (negative : Bool) (num den : Nat) :
    ofUnits negative num den ≠ .nan := by
  intro h
  unfold ofUnits at h
  split at h <;> cases h

theorem Double.ofInt_ne_nan (n : Int) : ofInt n ≠ .nan := ofUnits_ne_nan _ _ _

theorem Numeral.toDouble_ne_nan (n : Numeral) : n.toDouble ≠ .nan := Double.ofUnits_ne_nan _ _ _

theorem Double.ne_nan_and_eq_iff {x n : Double} (h : x ≠ .nan) : n ≠ .nan ∧ x = n ↔ x = n :=
  and_iff_right_of_imp fun heq => heq ▸ h

namespace Lexer

variable {cs : List Char}

/-- A text starts like a hexadecimal literal. -/
def HexMarked (cs : List Char) : Prop :=
  ∃ mark digits, (mark = 'x' ∨ mark = 'X') ∧ cs = '0' :: mark :: digits

-- ════════════════════════════════════════════════════════════════════════
-- Words that start with a digit
-- ════════════════════════════════════════════════════════════════════════

/-- A text without white space and commas that starts with a digit. -/
structure DigitWord (cs : List Char) : Prop where
  startsWithDigit : ∃ c tail, cs = c :: tail ∧ c.isDigit
  solid : ∀ c ∈ cs, ¬ Unicode.isBlank c ∧ c ≠ ','

theorem digitWord_iff :
    DigitWord cs ↔ cs.head?.any Char.isDigit ∧ cs.all fun c => !Unicode.isBlank c && c ≠ ',' := by
  constructor
  · intro h
    obtain ⟨c, tail, rfl, hc⟩ := h.startsWithDigit
    exact ⟨hc, List.all_eq_true.2 fun d hd => by simpa using h.solid d hd⟩
  · rintro ⟨hhead, hall⟩
    cases cs with
    | nil => cases hhead
    | cons c tail =>
      exact ⟨⟨c, tail, rfl, hhead⟩, fun d hd => by simpa using List.all_eq_true.1 hall d hd⟩

instance (cs : List Char) : Decidable (DigitWord cs) := decidable_of_iff _ digitWord_iff.symm

namespace DigitWord

theorem not_isSeparator (h : DigitWord cs) : ∀ c ∈ cs, ¬ Text.isSeparator c := by
  intro c hc hsep
  obtain ⟨hblank, hcomma⟩ := h.solid c hc
  rcases isSeparator_iff.1 hsep with rfl | rfl | rfl | rfl | rfl | rfl
  case inr.inr.inr.inr.inr => exact hcomma rfl
  all_goals exact hblank (by decide)

theorem dropWhile_eq (h : DigitWord cs) : cs.dropWhile Text.isSeparator = cs := by
  have hsolid := h.not_isSeparator
  obtain ⟨c, tail, rfl, _⟩ := h.startsWithDigit
  exact List.dropWhile_cons_of_neg (hsolid c List.mem_cons_self)

theorem takeWhile_eq (h : DigitWord cs) : cs.takeWhile Text.isSeparator = [] := by
  have hsolid := h.not_isSeparator
  obtain ⟨c, tail, rfl, _⟩ := h.startsWithDigit
  exact List.takeWhile_cons_of_neg (hsolid c List.mem_cons_self)

theorem trim_eq (h : DigitWord cs) : Text.trim cs = cs :=
  Text.trim_eq_self fun c hc => (h.solid c hc).1

end DigitWord

-- ════════════════════════════════════════════════════════════════════════
-- Decimal literals up to the end of a text
-- ════════════════════════════════════════════════════════════════════════

theorem numberRun_sign {c : Char} (h : c = '+' ∨ c = '-') (cs : List Char) :
    numberRun true (c :: cs) = (c :: (numberRun false cs).1, (numberRun false cs).2) := by
  rcases h with rfl | rfl <;> rfl

theorem numberRun_signed {negative : Bool} {sign digits : List Char}
    (hsign : Numeral.Sign negative sign) (hne : digits ≠ []) (hdigits : ∀ c ∈ digits, c.isDigit) :
    numberRun true (sign ++ digits) = (sign ++ digits, []) := by
  have hrun : numberRun false (digits ++ []) = (digits ++ [], []) :=
    numberRun_digits (fun c hc => .inl (hdigits c hc)) rfl
  rw [List.append_nil] at hrun
  cases hsign with
  | plus => rw [List.singleton_append, numberRun_sign (.inl rfl), hrun]
  | minus => rw [List.singleton_append, numberRun_sign (.inr rfl), hrun]
  | absent =>
    obtain ⟨c, others, rfl⟩ := List.exists_cons_of_ne_nil hne
    have hc : c.isDigit ∨ c = '.' := .inl (hdigits c List.mem_cons_self)
    rw [numberRun_cons_digit hc] at hrun
    rw [List.nil_append, numberRun_cons_digit hc, hrun]

/-- An exponent is a run up to its end. -/
theorem numberRun_exponent {e : Int} {exponent : List Char} (h : Numeral.Exponent e exponent) :
    numberRun false exponent = (exponent, []) := by
  cases h with
  | absent => rfl
  | @marked mark negative sign digits hmark hsign hne hdigits =>
    have hmarked : numberRun false (mark :: (sign ++ digits)) =
        (mark :: (numberRun true (sign ++ digits)).1, (numberRun true (sign ++ digits)).2) := by
      rcases hmark with rfl | rfl <;> rfl
    rw [hmarked, numberRun_signed hsign hne hdigits]

/-- A numeral that starts with a digit is a run up to its end. -/
theorem numberRun_of_read? {c : Char} {n : Numeral} (hc : c.isDigit)
    (h : Numeral.read? (c :: cs) = some n) : numberRun false (c :: cs) = (c :: cs, []) := by
  have hspells := Numeral.spells_of_read? h
  generalize htext : c :: cs = text at hspells
  cases hspells with
  | @parts sign fraction exponent hsign hwhole hfraction _ hexponent =>
    obtain ⟨_, rfl⟩ := hsign.eq_absent htext hc
    have hdigits : ∀ d ∈ n.whole ++ fraction, d.isDigit ∨ d = '.' := by
      intro d hd
      rcases List.mem_append.1 hd with hd | hd
      · exact .inl (hwhole d hd)
      · exact hfraction.isDigit_or_eq hd
    rw [List.nil_append, ← List.append_assoc]
    exact numberRun_digits hdigits (numberRun_exponent hexponent)

variable [Regex.Engine]

theorem readNumber_of_not_hexMarked (h : ¬ HexMarked cs) :
    readNumber cs = match Numeral.read? (numberRun false cs).1 with
      | some n => .ok (.number n.toDouble, (numberRun false cs).2)
      | none => .error (.invalidNumber (String.ofList (numberRun false cs).1)) := by
  unfold readNumber
  split
  · exact absurd ⟨_, _, .inl rfl, rfl⟩ h
  · exact absurd ⟨_, _, .inr rfl, rfl⟩ h
  · rfl

/-- A decimal literal that is all of a text is the numeral that the text spells. -/
theorem readNumber_eq_ok_nil_iff_read? {c : Char} {v : Operand} (hc : c.isDigit)
    (h : ¬ HexMarked (c :: cs)) :
    readNumber (c :: cs) = .ok (v, []) ↔
      ∃ n, Numeral.read? (c :: cs) = some n ∧ v = .number n.toDouble := by
  rw [readNumber_of_not_hexMarked h]
  constructor
  · intro hread
    have hall := numberRun_append false (c :: cs)
    split at hread
    · rename_i n hn
      simp only [Except.ok.injEq, Prod.mk.injEq] at hread
      obtain ⟨rfl, hrest⟩ := hread
      rw [hrest, List.append_nil] at hall
      rw [hall] at hn
      exact ⟨n, hn, rfl⟩
    · cases hread
  · rintro ⟨n, hn, rfl⟩
    rw [numberRun_of_read? hc hn]
    simp only [hn]

omit [Regex.Engine] in
theorem numberOfTrimmed_of_not_hexMarked {c : Char} (hc : c.isDigit) (h : ¬ HexMarked (c :: cs)) :
    Operand.numberOfTrimmed (c :: cs) =
      ((Numeral.read? (c :: cs)).map Numeral.toDouble).getD .nan := by
  have hname : ∀ d name, ¬ d.isDigit → c :: cs ≠ d :: name := fun d name hd heq =>
    hd ((List.cons.inj heq).1 ▸ hc)
  unfold Operand.numberOfTrimmed
  split
  · rename_i heq
    cases heq
  · exact absurd ⟨_, _, .inl rfl, by assumption⟩ h
  · exact absurd ⟨_, _, .inr rfl, by assumption⟩ h
  · rw [if_neg, if_neg]
    · exact hname '-' _ (by decide)
    · exact not_or.2 ⟨hname 'I' _ (by decide), hname '+' _ (by decide)⟩

-- ════════════════════════════════════════════════════════════════════════
-- Hexadecimal literals up to the end of a text
-- ════════════════════════════════════════════════════════════════════════

/-- The text is `0x`, in either case, and hexadecimal digits, at least one. -/
def Hexadecimal (cs digits : List Char) : Prop :=
  ∃ mark, (mark = 'x' ∨ mark = 'X') ∧ cs = '0' :: mark :: digits ∧ digits ≠ [] ∧
    ∀ c ∈ digits, Text.isHexDigit c

theorem readHex_of_forall {digits : List Char} (hne : digits ≠ [])
    (h : ∀ c ∈ digits, Text.isHexDigit c) :
    readHex digits = if 16 < (digits.dropWhile (· = '0')).length then .error .hexadecimalTooLong
      else .ok (.ofInt (Text.hexValue digits), []) := by
  have halphanum : ∀ c ∈ digits, c.isAlphanum := fun c hc => Text.isAlphanum_of_isHexDigit (h c hc)
  have htake : digits.takeWhile Char.isAlphanum = digits := List.takeWhile_eq_self_iff.2 halphanum
  have hdrop : digits.dropWhile Char.isAlphanum = [] := List.dropWhile_eq_nil_iff.2 halphanum
  have hall : ¬ (digits = [] ∨ ¬ digits.all Text.isHexDigit) := by
    rintro (hnil | hnot)
    · exact hne hnil
    · exact hnot (List.all_eq_true.2 h)
  simp only [readHex, htake, hdrop, if_neg hall, maxHexDigits]

theorem forall_of_readHex {digits : List Char} {v : Operand} (h : readHex digits = .ok (v, [])) :
    digits ≠ [] ∧ ∀ c ∈ digits, Text.isHexDigit c := by
  have hsplit := List.takeWhile_append_dropWhile (p := Char.isAlphanum) (l := digits)
  simp only [readHex] at h
  split at h
  · cases h
  rename_i hall
  split at h
  · cases h
  simp only [Except.ok.injEq, Prod.mk.injEq] at h
  rw [h.2, List.append_nil] at hsplit
  rw [hsplit] at hall
  obtain ⟨hne, hhex⟩ := not_or.1 hall
  exact ⟨hne, List.all_eq_true.1 (not_not.1 hhex)⟩

omit [Regex.Engine] in
theorem numberOfHex_of_forall {digits : List Char} (hne : digits ≠ [])
    (h : ∀ c ∈ digits, Text.isHexDigit c) :
    Operand.numberOfHex digits = if 16 < (digits.dropWhile (· = '0')).length then .nan
      else .ofInt (Text.hexValue digits) := by
  have hall := List.all_eq_true.2 h
  simp only [Operand.numberOfHex, hne, hall, ne_eq, not_false_eq_true, true_and,
    Text.hexValue_lt_iff h]
  by_cases hlong : 16 < (digits.dropWhile (· = '0')).length
  · rw [if_pos hlong, if_neg (Nat.not_le.2 hlong)]
  · rw [if_neg hlong, if_pos (Nat.le_of_not_lt hlong)]

omit [Regex.Engine] in
theorem forall_of_numberOfHex {digits : List Char} (h : Operand.numberOfHex digits ≠ .nan) :
    digits ≠ [] ∧ ∀ c ∈ digits, Text.isHexDigit c := by
  simp only [Operand.numberOfHex] at h
  split at h
  · rename_i hall
    exact ⟨hall.1, List.all_eq_true.1 hall.2.1⟩
  · exact absurd rfl h

theorem readNumber_hexMarked {mark : Char} (h : mark = 'x' ∨ mark = 'X') (digits : List Char) :
    readNumber ('0' :: mark :: digits) = readHex digits := by
  rcases h with rfl | rfl <;> rfl

omit [Regex.Engine] in
theorem numberOfTrimmed_hexMarked {mark : Char} (h : mark = 'x' ∨ mark = 'X')
    (digits : List Char) :
    Operand.numberOfTrimmed ('0' :: mark :: digits) = Operand.numberOfHex digits := by
  rcases h with rfl | rfl <;> rfl

-- ════════════════════════════════════════════════════════════════════════
-- Both readings
-- ════════════════════════════════════════════════════════════════════════

/-- What is read as a literal up to the end of a text is the number of the text, and the
    other way round. -/
theorem readNumber_eq_ok_nil_iff {c : Char} (hc : c.isDigit) (n : Double) :
    readNumber (c :: cs) = .ok (.number n, []) ↔
      n ≠ .nan ∧ Operand.numberOfTrimmed (c :: cs) = n := by
  by_cases hmarked : HexMarked (c :: cs)
  · obtain ⟨mark, digits, hmark, heq⟩ := hmarked
    rw [heq, readNumber_hexMarked hmark, numberOfTrimmed_hexMarked hmark]
    by_cases hall : digits ≠ [] ∧ ∀ c ∈ digits, Text.isHexDigit c
    · rw [readHex_of_forall hall.1 hall.2, numberOfHex_of_forall hall.1 hall.2]
      split
      · exact iff_of_false (by rintro ⟨⟩) fun h => h.1 h.2.symm
      · rw [Double.ne_nan_and_eq_iff (Double.ofInt_ne_nan _)]
        simp [Operand.ofInt]
    · exact iff_of_false (fun h => hall (forall_of_readHex h))
        fun h => hall (forall_of_numberOfHex (h.2 ▸ h.1))
  · rw [readNumber_eq_ok_nil_iff_read? hc hmarked, numberOfTrimmed_of_not_hexMarked hc hmarked]
    cases Numeral.read? (c :: cs) with
    | none =>
      refine iff_of_false ?_ fun h => h.1 h.2.symm
      rintro ⟨_, hread, _⟩
      cases hread
    | some numeral =>
      rw [Option.map_some, Option.getD_some, Double.ne_nan_and_eq_iff numeral.toDouble_ne_nan]
      simp [eq_comm]

theorem tokensFrom_eq_nil_iff {operandExpected : Bool} {offset : Nat} :
    tokensFrom operandExpected offset cs = .ok [] ↔ cs.dropWhile Text.isSeparator = [] := by
  refine ⟨fun h => ?_, tokensFrom_of_dropWhile_eq_nil⟩
  rcases exists_readToken_of_tokensFrom h with ⟨hnil, _⟩ | ⟨_, _, _, _, _, _, _, _, _, _, heq⟩
  · exact hnil
  · cases heq

namespace DigitWord

/-- A word is one literal if its literal is all of it. -/
theorem tokensFrom_eq_literal_iff (h : DigitWord cs) (v : Operand) (offset : Nat) :
    tokensFrom true 0 cs = .ok [⟨.literal v, offset⟩] ↔
      offset = 0 ∧ readNumber cs = .ok (v, []) := by
  have hsolid := h.not_isSeparator
  have hdrop := h.dropWhile_eq
  have htake := h.takeWhile_eq
  obtain ⟨c, tail, rfl, hc⟩ := h.startsWithDigit
  have hread := readToken_digit hc true tail
  cases hnumber : readNumber (c :: tail) with
  | error fault =>
    rw [hnumber] at hread
    rw [tokensFrom_of_fault hdrop hread]
    exact iff_of_false (by rintro ⟨⟩) (by rintro ⟨_, ⟨⟩⟩)
  | ok read =>
    obtain ⟨v', rest⟩ := read
    rw [hnumber] at hread
    rw [tokensFrom_of_readToken hdrop hread, htake]
    have hrest : rest.dropWhile Text.isSeparator = [] → rest = [] := by
      intro hnil
      cases rest with
      | nil => rfl
      | cons d rest =>
        have hmem : d ∈ tail := (readNumber_suffix hc hnumber).subset List.mem_cons_self
        rw [List.dropWhile_cons_of_neg (hsolid d (List.mem_cons_of_mem c hmem))] at hnil
        cases hnil
    rw [map_eq_ok_iff]
    constructor
    · rintro ⟨tokens, htokens, heq⟩
      cases heq
      rw [hrest (tokensFrom_eq_nil_iff.1 htokens)]
      exact ⟨rfl, rfl⟩
    · rintro ⟨rfl, heq⟩
      cases heq
      exact ⟨[], tokensFrom_nil, rfl⟩

/-- The error of a word names all of the word. -/
theorem tokensFrom_of_fault {fault : LexFault} (h : DigitWord cs)
    (hread : readNumber cs = .error fault) :
    tokensFrom true 0 cs = .error (.lex fault 0 (String.ofList cs)) := by
  have hdrop := h.dropWhile_eq
  have htake := h.takeWhile_eq
  have hword : Text.word cs = cs := by
    refine List.takeWhile_eq_self_iff.2 fun c hc => ?_
    have hnot := h.not_isSeparator c hc
    simp only [Text.isSeparator, Bool.or_eq_true, not_or] at hnot
    simpa using hnot.1
  obtain ⟨c, tail, rfl, hc⟩ := h.startsWithDigit
  have htoken : readToken true c tail = .error fault := by
    rw [readToken_digit hc, hread]
    rfl
  rw [Lexer.tokensFrom_of_fault hdrop htoken, hword, htake]
  rfl

end DigitWord

end Lexer

open Lexer

/-- A word that starts with a digit is a single number literal exactly if it has a number as
    a text, and both are the same number. Decimal words have the number of the numeral that
    they spell. Words of hexadecimal digits have the number that the digits spell in base
    sixteen, rounded once; with more than sixteen digits behind the leading zeros the literal
    is refused as too long and the text has no number. -/
theorem tokenize_eq_number_iff [Regex.Engine] {word : String} (h : DigitWord word.toList) :
    (∀ n offset, tokenize word = .ok [⟨.literal (.number n), offset⟩] ↔
      offset = 0 ∧ n ≠ .nan ∧ Operand.numberOfText word = n) ∧
    (¬ HexMarked word.toList → ∀ n, n ≠ .nan ∧ Operand.numberOfText word = n ↔
      ∃ numeral : Numeral, numeral.Spells word.toList ∧ numeral.toDouble = n) ∧
    ∀ digits, Hexadecimal word.toList digits →
      let value : Nat := Nat.ofDigits 16 (digits.map Text.hexDigitValue).reverse
      let significant := digits.dropWhile (· = '0')
      (significant.length ≤ 16 → value < 2 ^ 64 ∧
        tokenize word = .ok [⟨.literal (.number (.ofInt value)), 0⟩] ∧
        Operand.numberOfText word = .ofInt value) ∧
      (16 < significant.length →
        tokenize word = .error (.lex .hexadecimalTooLong 0 word) ∧
        Operand.numberOfText word = .nan) := by
  have htext : Operand.numberOfText word = Operand.numberOfTrimmed word.toList := by
    rw [Operand.numberOfText, h.trim_eq]
  obtain ⟨c, tail, hword, hc⟩ := h.startsWithDigit
  refine ⟨fun n offset => ?_, fun hmarked n => ?_, ?_⟩
  · rw [tokenize, h.tokensFrom_eq_literal_iff, htext, hword, readNumber_eq_ok_nil_iff hc]
  · rw [htext, hword, ← readNumber_eq_ok_nil_iff hc,
      readNumber_eq_ok_nil_iff_read? hc (hword ▸ hmarked)]
    refine exists_congr fun numeral => and_congr Numeral.read?_eq_some_iff ?_
    rw [Operand.number.injEq, eq_comm]
  · intro digits hdigits value significant
    obtain ⟨mark, hmark, heq, hne, hhex⟩ := hdigits
    have hvalue : Text.hexValue digits = value := Text.hexValue_eq_ofDigits digits
    have hread : readNumber word.toList = if 16 < significant.length then .error .hexadecimalTooLong
        else .ok (.ofInt value, []) := by
      rw [heq, readNumber_hexMarked hmark, readHex_of_forall hne hhex, hvalue]
    have hnumber : Operand.numberOfText word = if 16 < significant.length then .nan
        else .ofInt value := by
      rw [htext, heq, numberOfTrimmed_hexMarked hmark, numberOfHex_of_forall hne hhex, hvalue]
    constructor
    · intro hshort
      rw [if_neg (Nat.not_lt.2 hshort)] at hread hnumber
      exact ⟨hvalue ▸ (Text.hexValue_lt_iff hhex).2 hshort,
        (h.tokensFrom_eq_literal_iff _ 0).2 ⟨rfl, hread⟩, hnumber⟩
    · intro hlong
      rw [if_pos hlong] at hread hnumber
      refine ⟨?_, hnumber⟩
      rw [tokenize, h.tokensFrom_of_fault hread, String.ofList_toList]

/-- `1e400` is an infinity, and `0x00fF` is 255, as literals and as texts. -/
theorem tokenize_eq_number_iff_overflow :
    DigitWord "1e400".toList ∧ Operand.numberOfText "1e400" = .infinite false ∧
      tokenize "1e400" = .ok [⟨.literal (.number (.infinite false)), 0⟩] ∧
      DigitWord "0x00fF".toList ∧ Operand.numberOfText "0x00fF" = .ofInt 255 ∧
      tokenize "0x00fF" = .ok [⟨.literal (.number (.ofInt 255)), 0⟩] := by
  have hdecimal : DigitWord "1e400".toList := by decide
  have hhex : DigitWord "0x00fF".toList := by decide
  have hnot : ¬ HexMarked "1e400".toList := by
    rintro ⟨mark, digits, _, heq⟩
    cases heq
  have hspells : (⟨false, ['1'], [], 400⟩ : Numeral).Spells "1e400".toList :=
    Numeral.read?_eq_some_iff.1 rfl
  have hdigits : Hexadecimal "0x00fF".toList ['0', '0', 'f', 'F'] :=
    ⟨'x', .inl rfl, rfl, by decide, List.all_eq_true.1 rfl⟩
  obtain ⟨hiff, hread, _⟩ := tokenize_eq_number_iff hdecimal
  obtain ⟨_, _, hvalue⟩ := tokenize_eq_number_iff hhex
  have hinfinite := (hread hnot (.infinite false)).2 ⟨_, hspells, by decide +kernel⟩
  obtain ⟨_, htokens, hnumber⟩ := (hvalue _ hdigits).1 (by decide)
  exact ⟨hdecimal, hinfinite.2, (hiff _ 0).2 ⟨rfl, hinfinite⟩, hhex, hnumber, htokens⟩

end ScalarExpr

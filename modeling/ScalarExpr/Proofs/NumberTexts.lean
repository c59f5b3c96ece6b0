import ScalarExpr.Proofs.Canonical
import ScalarExpr.Proofs.Evaluation
import ScalarExpr.Proofs.NumberLiterals
import ScalarExpr.Regex.Dialect
/-!
# The texts of numbers

The text of a finite number has that number, with its sign also if it is a zero. The
infinities and not-a-number are written by names that no number has as a text. So a
number joined to an empty text and then compared with itself is equal exactly if it is
finite.

## Main definitions

- `Tree.textCompared` — an operand joined to an empty text and compared with another one

## Main statements

- `Operand.numberOfText_text`: the number of the text of a number
- `Operand.relateLoosely_text`: a number is equal to its text exactly if it is finite
- `numberOfText_text_iff`: both, for expressions that come to a number
-/

namespace ScalarExpr

namespace Double

/-- Every number but not-a-number is equal to itself. -/
theorem order_self {n : Double} (h : n ≠ .nan) : n.order n = some .eq := by
  cases n with
  | nan => exact absurd rfl h
  | infinite s => exact congrArg some (Nat.compare_eq_eq.2 rfl)
  | finite s m => exact congrArg some (Int.compare_eq_eq.2 rfl)

theorem ne_nan_of_isFinite {n : Double} (h : n.isFinite) : n ≠ .nan := by
  rintro rfl
  cases h

end Double

namespace Decimal

/-- A decimal holds no white space. -/
theorem not_isBlank_of_mem_text {d : Decimal} {c : Char} (h : c ∈ d.text) : ¬ Unicode.isBlank c := by
  rcases isDigit_or_eq_of_mem_text h with hdigit | rfl
  · obtain ⟨hfirst, hlast⟩ := Char.isDigit_iff_toNat.1 hdigit
    exact Unicode.not_isBlank_of_visible (Nat.le_trans (by decide) hfirst)
      (Nat.le_trans hlast (by decide))
  · decide

/-- A decimal is not taken for a hexadecimal number. -/
theorem not_hexMarked_text (d : Decimal) : ¬ Lexer.HexMarked d.text := by
  rintro ⟨mark, digits, hmark, htext⟩
  have hmem : mark ∈ d.text := by
    rw [htext]
    exact List.mem_cons_of_mem _ List.mem_cons_self
  rcases isDigit_or_eq_of_mem_text hmem with hdigit | rfl
  · rcases hmark with rfl | rfl <;> cases hdigit
  · rcases hmark with hmark | hmark <;> cases hmark

end Decimal

namespace Operand

-- ════════════════════════════════════════════════════════════════════════
-- The number of the text of a number
-- ════════════════════════════════════════════════════════════════════════

theorem numberOfTrimmed_minus {c : Char} (hc : c.isDigit) (cs : List Char) :
    numberOfTrimmed ('-' :: c :: cs) =
      ((Numeral.read? ('-' :: c :: cs)).map Numeral.toDouble).getD .nan := by
  have hinfinite : ¬ ('-' :: c :: cs = "Infinity".toList ∨ '-' :: c :: cs = "+Infinity".toList) := by
    rintro (h | h) <;> cases h
  have hnegative : '-' :: c :: cs ≠ "-Infinity".toList := by
    intro h
    cases (List.cons.inj (List.cons.inj h).2).1
    cases hc
  rw [numberOfTrimmed, if_neg hinfinite, if_neg hnegative]
  · rintro ⟨⟩
  · rintro _ ⟨⟩
  · rintro _ ⟨⟩

/-- A magnitude has its text as a decimal. -/
theorem numberOfTrimmed_text (m : Magnitude) :
    numberOfTrimmed m.shortest.text = .finite false m := by
  obtain ⟨c, tail, htext, hc⟩ := m.shortest.exists_text_eq_cons
  have hdecimal := m.shortest.not_hexMarked_text
  have hread := Double.read?_text m
  rw [Double.text] at hread
  rw [htext] at hdecimal hread ⊢
  rw [Lexer.numberOfTrimmed_of_not_hexMarked hc hdecimal, hread, Option.getD_some]

/-- A minus before the text of a magnitude makes the number negative, and zero too. -/
theorem numberOfTrimmed_minus_text (m : Magnitude) :
    numberOfTrimmed ('-' :: m.shortest.text) = .finite true m := by
  obtain ⟨c, tail, htext, hc⟩ := m.shortest.exists_text_eq_cons
  have hread := Double.read?_text m
  rw [Double.text] at hread
  rw [htext] at hread ⊢
  obtain ⟨numeral, hnumeral, hvalue⟩ := Option.map_eq_some_iff.1 hread
  have hspells := (Numeral.read?_eq_some_iff.1 hnumeral).neg hc
  rw [numberOfTrimmed_minus hc, Numeral.read?_eq_some_iff.2 hspells, Option.map_some,
    Option.getD_some, Numeral.toDouble_neg, hvalue]
  rfl

variable [Regex.Engine]

/-- The text of a finite number has that number; no other number has a text that has a
    number. -/
theorem numberOfText_text (n : Double) :
    numberOfText (number n).toText = if n.isFinite then n else .nan := by
  have htext : (number n).toText.toList = n.text := String.toList_ofList
  rw [numberOfText, htext]
  have htrim : ∀ m : Magnitude, ∀ c ∈ m.shortest.text, ¬ Unicode.isBlank c :=
    fun m c hc => Decimal.not_isBlank_of_mem_text hc
  cases n with
  | nan => rfl
  | infinite negative => cases negative <;> rfl
  | finite negative m =>
    cases negative with
    | false =>
      rw [Double.text, Text.trim_eq_self (htrim m)]
      exact numberOfTrimmed_text m
    | true =>
      rw [Double.text, Text.trim_eq_self (List.forall_mem_cons.2 ⟨by decide, htrim m⟩)]
      exact numberOfTrimmed_minus_text m

/-- A number is equal to its text exactly if it is finite. -/
theorem relateLoosely_text (n : Double) :
    ComparisonOperator.equal.relateLoosely (string (number n).toText) (number n) = n.isFinite := by
  have hnumber : (string (number n).toText).toNumber = if n.isFinite then n else .nan :=
    numberOfText_text n
  have hkinds : ¬ ((string (number n).toText).isNullish ∨ (number n).isNullish) := by
    rintro (h | h) <;> cases h
  rw [ComparisonOperator.relateLoosely, if_neg hkinds, ComparisonOperator.relate, hnumber]
  · by_cases hfinite : n.isFinite
    · rw [if_pos hfinite, toNumber, Double.order_self (Double.ne_nan_of_isFinite hfinite), hfinite]
      rfl
    · rw [if_neg hfinite, Bool.eq_false_iff.2 hfinite]
      rfl
  · rintro _ _ _ ⟨⟩

end Operand

section

variable [Regex.Engine]

-- ════════════════════════════════════════════════════════════════════════
-- The text of a number in an expression
-- ════════════════════════════════════════════════════════════════════════

/-- The expression `(x + "") == y`, with the offsets of its tokens. -/
def Tree.textCompared (equalOffset plusOffset textOffset : Nat) (x y : Tree) : Tree :=
  .binary ⟨.comparison .equal, rfl⟩ equalOffset
    (.binary ⟨.arithmetic .plus, rfl⟩ plusOffset x (.literal (.string "") textOffset)) y

theorem Tree.result_value_textCompared {resolver : Option Resolver} {x y : Tree} {n : Double}
    (hx : (x.value resolver).result = .ok (.number n))
    (hy : (y.value resolver).result = .ok (.number n)) (equalOffset plusOffset textOffset : Nat) :
    ((x.textCompared equalOffset plusOffset textOffset y).value resolver).result =
      .ok (.boolean n.isFinite) := by
  have hplus : ∀ logical, Operator.arithmetic .plus ≠ .logical logical := by rintro _ ⟨⟩
  have hequal : ∀ logical, Operator.comparison .equal ≠ .logical logical := by rintro _ ⟨⟩
  have hjoin : (Operand.number n).plus (.string "") = .string (Operand.number n).toText :=
    congrArg Operand.string String.append_empty
  have hempty : ((Tree.literal (.string "") textOffset).value resolver).result = .ok (.string "") :=
    rfl
  have htext := result_value_binary ⟨_, rfl⟩ hplus hx hempty plusOffset
  have hcompared := result_value_binary ⟨_, rfl⟩ hequal htext hy equalOffset
  rw [textCompared, hcompared]
  calc Operator.applyBinary (.comparison .equal) ((Operand.number n).plus (.string "")) (.number n)
      = .ok (.boolean (ComparisonOperator.equal.relateLoosely (.string (Operand.number n).toText)
          (.number n))) := by rw [hjoin]; rfl
    _ = .ok (.boolean n.isFinite) := by rw [Operand.relateLoosely_text]

theorem parse_textCompared :
    parse "(n + \"\") == n" =
      .ok ((Tree.variable "n" 1).textCompared 9 3 5 (.variable "n" 12)).preorder := by
  have hright : Lexer.tokensFrom false 8 " == n".toList =
      .ok [⟨.operator (.comparison .equal), 9⟩, ⟨.variable "n", 12⟩] :=
    Lexer.tokensFrom_eq_cons rfl rfl <| Lexer.tokensFrom_eq_cons rfl rfl <|
      Lexer.tokensFrom_of_dropWhile_eq_nil rfl
  have hsum : Lexer.tokensFrom false 2 " + \"\") == n".toList =
      .ok [⟨.operator (.arithmetic .plus), 3⟩, ⟨.literal (.string ""), 5⟩, ⟨.rightParen, 7⟩,
        ⟨.operator (.comparison .equal), 9⟩, ⟨.variable "n", 12⟩] :=
    Lexer.tokensFrom_eq_cons rfl rfl <| Lexer.tokensFrom_eq_cons rfl rfl <|
      Lexer.tokensFrom_eq_cons rfl rfl hright
  have hread : ReadAs "(n + \"\") == n"
      [⟨.leftParen, 0⟩, ⟨.variable "n", 1⟩, ⟨.operator (.arithmetic .plus), 3⟩,
        ⟨.literal (.string ""), 5⟩, ⟨.rightParen, 7⟩, ⟨.operator (.comparison .equal), 9⟩,
        ⟨.variable "n", 12⟩] :=
    Lexer.tokensFrom_eq_cons rfl rfl <| Lexer.tokensFrom_eq_cons rfl rfl hsum
  rw [hread.parse_eq]
  rfl

/-- The text of a finite number has that number, a zero with its sign; the texts of the
    infinities and of not-a-number have none. An expression `(x + "") == y` is therefore true
    if both `x` and `y` come to one finite number, and false if they come to one infinity or
    to not-a-number. -/
theorem numberOfText_text_iff (n : Double) :
    (n.isFinite → (Operand.string (Operand.number n).toText).toNumber = n) ∧
    (¬ n.isFinite → (Operand.string (Operand.number n).toText).toNumber = .nan) ∧
    ∀ (resolver : Option Resolver) (x y : Tree) (equalOffset plusOffset textOffset : Nat)
      (text : String), (x.value resolver).result = .ok (.number n) →
      (y.value resolver).result = .ok (.number n) →
      parse text = .ok (x.textCompared equalOffset plusOffset textOffset y).preorder →
      (evaluateText text { resolver }).result = .ok (.boolean n.isFinite) := by
  refine ⟨fun hfinite => ?_, fun hinfinite => ?_, ?_⟩
  · rw [Operand.toNumber, Operand.numberOfText_text, if_pos hfinite]
  · rw [Operand.toNumber, Operand.numberOfText_text, if_neg hinfinite]
  · intro resolver x y equalOffset plusOffset textOffset text hx hy hparse
    rw [evaluateText_of_parse_eq hparse]
    exact Tree.result_value_textCompared hx hy equalOffset plusOffset textOffset

end

/-- Negative zero is the number of its text, which is not the text of zero. -/
theorem numberOfText_text_negative_zero :
    (Operand.string (Operand.number (.zero true)).toText).toNumber = .zero true ∧
      (Operand.number (.zero true)).toText = "-0" ∧
      (evaluateText "(n + \"\") == n"
        { resolver := some fun _ => .ok (.number (.zero true)) }).result = .ok (.boolean true) := by
  obtain ⟨hnumber, _, hevaluate⟩ := numberOfText_text_iff (.zero true)
  exact ⟨hnumber rfl, by decide +kernel, hevaluate _ _ _ 9 3 5 _ rfl rfl parse_textCompared⟩

/-- The text of an infinity is no text of a number. -/
theorem numberOfText_text_infinite :
    Double.infinite false ≠ .nan ∧
      (Operand.string (Operand.number (.infinite false)).toText).toNumber ≠ .infinite false ∧
      (evaluateText "(n + \"\") == n"
        { resolver := some fun _ => .ok (.number (.infinite false)) }).result ≠
        .ok (.boolean true) := by
  have hnumber : (Operand.string (Operand.number (.infinite false)).toText).toNumber = .nan :=
    Operand.numberOfText_text _
  have hcompared : (evaluateText "(n + \"\") == n"
      { resolver := some fun _ => .ok (.number (.infinite false)) }).result =
      .ok (.boolean false) := by
    rw [evaluateText_of_parse_eq parse_textCompared]
    exact Tree.result_value_textCompared (n := .infinite false) rfl rfl 9 3 5
  rw [hnumber, hcompared]
  decide

end ScalarExpr

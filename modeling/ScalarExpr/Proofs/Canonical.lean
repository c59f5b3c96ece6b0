import ScalarExpr.Proofs.Meaning
import ScalarExpr.Proofs.Source
import ScalarExpr.Regex.Dialect
/-!
# The canonical writing of a text

The tokens of a text can be written again, each in its canonical form and with a
single space between each two of them. The new text is read as the same tokens: a
token that was read in a state can be read in that state again, and a token leaves
the same state whichever way it is written.

## Main definitions

- `Double.isFinite` — the numbers that have a numeral

## Main statements

- `Lexer.exists_ofUnits_of_readNumber`: a number literal has a clear sign
- `Lexer.readableIn_of_readToken`: a token that was read can be read again
- `Lexer.readable_of_tokensFrom`: and so can all tokens of a text
- `exists_tokenize_displayAll`: the tokens of a text are those of its canonical writing
-/

namespace ScalarExpr

/-- Neither an infinity nor not-a-number. -/
def Double.isFinite : Double → Bool
  | .finite _ _ => true
  | .infinite _ | .nan => false

theorem Double.exists_eq_finite_of_ofUnits {num den : Nat}
    (hfinite : (ofUnits false num den).isFinite) : ∃ m, ofUnits false num den = .finite false m := by
  unfold ofUnits at hfinite ⊢
  split at hfinite
  · rename_i hlimit
    exact ⟨_, dif_pos hlimit⟩
  · cases hfinite

theorem Numeral.negative_eq_false_of_read? {c : Char} {cs : List Char} {n : Numeral}
    (hdigit : c.isDigit) (h : read? (c :: cs) = some n) : n.negative = false := by
  simp only [read?, readSign_of_isDigit hdigit] at h
  split at h
  · cases h
  · obtain ⟨exponent, _, rfl⟩ := Option.map_eq_some_iff.1 h
    rfl

section

variable [Regex.Engine]

namespace Lexer

variable {operandExpected : Bool} {c : Char} {cs rest : List Char}

-- ════════════════════════════════════════════════════════════════════════
-- What literals stand for
-- ════════════════════════════════════════════════════════════════════════

theorem exists_ofUnits_of_readHex {value : Operand} (h : readHex cs = .ok (value, rest)) :
    ∃ num den, value = .number (.ofUnits false num den) := by
  simp only [readHex] at h
  split at h
  · cases h
  split at h
  · cases h
  cases h
  have hclear : decide (((Text.hexValue (cs.takeWhile Char.isAlphanum) : Nat) : Int) < 0) = false :=
    decide_eq_false (by omega)
  exact ⟨_, _, by rw [Operand.ofInt, Double.ofInt, hclear]⟩

/-- A number literal has no sign, so what it stands for is rounded from a quotient
    with a clear sign. -/
theorem exists_ofUnits_of_readNumber {value : Operand} (hdigit : c.isDigit)
    (h : readNumber (c :: cs) = .ok (value, rest)) :
    ∃ num den, value = .number (.ofUnits false num den) := by
  unfold readNumber at h
  split at h
  · exact exists_ofUnits_of_readHex h
  · exact exists_ofUnits_of_readHex h
  · have hrun : (numberRun false (c :: cs)).1 = c :: (numberRun false cs).1 := by
      simp only [numberRun, hdigit, Bool.true_or, if_true]
    dsimp only at h
    rw [hrun] at h
    split at h
    · rename_i n hread
      cases h
      have hnegative := Numeral.negative_eq_false_of_read? hdigit hread
      exact ⟨_, _, by rw [Numeral.toDouble, hnegative, Double.ofDecimal]⟩
    · cases h

theorem exists_eq_string_of_readString {quote : Char} {value : Operand}
    (h : readString quote cs = .ok (value, rest)) : ∃ s, value = .string s := by
  unfold readString at h
  split at h
  · cases h
    exact ⟨_, rfl⟩
  · cases h

theorem exists_eq_regexp_of_readRegexp {value : Operand} (h : readRegexp cs = .ok (value, rest)) :
    ∃ r, value = .regexp r := by
  simp only [readRegexp] at h
  split at h
  · cases h
  split at h
  · cases h
    exact ⟨_, rfl⟩
  · cases h

omit [Regex.Engine] in
/-- A minus is always taken for a subtraction first. -/
theorem ne_negation_of_read? {op : Operator} (h : Operator.read? cs = some (op, rest)) :
    op ≠ .unary .minus := by
  have hall : ∀ entry ∈ Operator.readingTable, entry.2 ≠ .unary .minus := by decide
  obtain ⟨⟨spelling, op'⟩, hentry, hread⟩ := List.exists_of_findSome?_eq_some h
  obtain ⟨_, _, heq⟩ := Option.map_eq_some_iff.1 hread
  cases heq
  exact hall _ hentry

-- ════════════════════════════════════════════════════════════════════════
-- Tokens read again
-- ════════════════════════════════════════════════════════════════════════

theorem isVariable_of_readToken {path : String}
    (h : readToken operandExpected c cs = .ok (.variable path, rest)) : IsVariable path := by
  have hread := tokensFrom_lone (lexesAs_of_readToken h true) 0
  exact ⟨path, 0, hread⟩

/-- A token that was read can be read in the same state again, unless it is a number
    too large for a numeral. -/
theorem readableIn_of_readToken {kind : TokenKind}
    (h : readToken operandExpected c cs = .ok (kind, rest))
    (hfinite : ∀ n, kind = .literal (.number n) → n.isFinite) :
    kind.ReadableIn operandExpected := by
  cases readBy_of_readToken h with
  | leftParen | rightParen => trivial
  | operator hread hbinary =>
    refine ⟨fun hop => absurd hop (ne_negation_of_read? hread), fun hop => ?_⟩
    apply Bool.eq_false_iff.2
    intro hexpected
    obtain ⟨hminus, hdivide⟩ := hbinary hexpected
    rcases hop with hop | hop
    · exact hminus hop
    · exact hdivide hop
  | negation hexpected hread =>
    refine ⟨fun _ => hexpected, ?_⟩
    rintro (hop | hop) <;> cases hop
  | @regexp value body rest hexpected hread hvalue =>
    obtain ⟨r, rfl⟩ := exists_eq_regexp_of_readRegexp hvalue
    exact ⟨⟨_, _, hvalue⟩, fun _ _ => hexpected⟩
  | number hdigit hvalue =>
    obtain ⟨num, den, rfl⟩ := exists_ofUnits_of_readNumber hdigit hvalue
    exact ⟨Double.exists_eq_finite_of_ofUnits (hfinite _ rfl), by rintro r ⟨⟩⟩
  | string hquote hvalue =>
    obtain ⟨s, rfl⟩ := exists_eq_string_of_readString hvalue
    exact ⟨trivial, by rintro r ⟨⟩⟩
  | keyword hread =>
    obtain ⟨word, hentry, _⟩ := exists_word_of_readKeyword? hread
    simp only [keywords, List.mem_cons, Prod.mk.injEq, List.not_mem_nil, or_false] at hentry
    rcases hentry with ⟨_, rfl⟩ | ⟨_, rfl⟩ | ⟨_, rfl⟩ <;> exact ⟨trivial, by rintro r ⟨⟩⟩
  | «variable» hstart hkeyword hpath => exact isVariable_of_readToken h

/-- Each token of a text can be read again in the state that the token before it
    leaves. -/
theorem readable_of_tokensFrom {offset : Nat} {tokens : List Token}
    (h : tokensFrom operandExpected offset cs = .ok tokens)
    (hfinite : ∀ t ∈ tokens, ∀ n, t.kind = .literal (.number n) → n.isFinite) :
    TokenKind.Readable operandExpected (tokens.map Token.kind) := by
  induction tokens generalizing operandExpected offset cs with
  | nil => trivial
  | cons t tokens ih =>
    rcases exists_readToken_of_tokensFrom h with
      ⟨_, hnil⟩ | ⟨c, tail, kind, rest, start, offset', tokens', _, hread, htokens, heq⟩
    · cases hnil
    · cases heq
      exact ⟨readableIn_of_readToken hread (hfinite _ List.mem_cons_self),
        ih htokens fun t ht => hfinite t (List.mem_cons_of_mem _ ht)⟩

end Lexer

/-- The tokens of a text, displayed with single spaces between them, are read as
    tokens of the same kinds in the same order. -/
theorem exists_tokenize_displayAll {text : String} {tokens : List Token}
    (h : tokenize text = .ok tokens)
    (hfinite : ∀ t ∈ tokens, ∀ n, t.kind = .literal (.number n) → n.isFinite) :
    ∃ tokens', tokenize (Token.displayAll tokens) = .ok tokens' ∧
      tokens'.map Token.kind = tokens.map Token.kind := by
  by_cases htokens : tokens = []
  · subst htokens
    exact ⟨[], Lexer.tokensFrom_of_dropWhile_eq_nil rfl, rfl⟩
  · have hspelled := Lexer.spelled_displayAll htokens
    have hreadable := Lexer.readable_of_tokensFrom h hfinite
    have hgap : ∀ c ∈ ([] : List Char), Text.isSeparator c := List.forall_mem_nil _
    exact Lexer.tokensFrom_of_spelled hspelled hreadable hgap 0

end

/-- `-0x1F!~/a\/b/s` is written again with another numeral and the other spelling of
    the denied match. -/
theorem exists_tokenize_displayAll_denial :
    let tokens : List Token :=
      [⟨.operator (.unary .minus), 0⟩, ⟨.literal (.ofInt 31), 1⟩,
       ⟨.operator (.comparison .notRegexMatch), 5⟩,
       ⟨.literal (.regexp ⟨"a/b", { dotAll := true }, by decide⟩), 7⟩]
    tokenize "-0x1F!~/a\\/b/s" = .ok tokens ∧
      ∃ tokens', tokenize (Token.displayAll tokens) = .ok tokens' ∧
        tokens'.map Token.kind = tokens.map Token.kind := by
  intro tokens
  have htokens : tokenize "-0x1F!~/a\\/b/s" = .ok tokens :=
    Lexer.tokensFrom_eq_cons rfl rfl <| Lexer.tokensFrom_eq_cons rfl rfl <|
      Lexer.tokensFrom_eq_cons rfl rfl <| Lexer.tokensFrom_eq_cons rfl rfl <|
        Lexer.tokensFrom_of_dropWhile_eq_nil rfl
  have hfinite : ∀ t ∈ tokens, ∀ n, t.kind = .literal (.number n) → n.isFinite := by
    intro t ht n hn
    simp only [tokens, List.mem_cons, List.not_mem_nil, or_false] at ht
    rcases ht with rfl | rfl | rfl | rfl
    · cases hn
    · have hvalue : Double.ofInt 31 = n := Operand.number.inj (TokenKind.literal.inj hn)
      have hsize : (Double.ofInt 31).isFinite := by decide +kernel
      rwa [← hvalue]
    · cases hn
    · cases hn
  exact ⟨htokens, exists_tokenize_displayAll htokens hfinite⟩

end ScalarExpr

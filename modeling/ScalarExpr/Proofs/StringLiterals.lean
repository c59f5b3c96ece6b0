import ScalarExpr.Proofs.Addresses
import ScalarExpr.Proofs.Faults
import ScalarExpr.Regex.Dialect
/-!
# String literals

Every text is a literal in quotes of either kind, a backslash before each such quote and
each backslash of its own. What follows a quote is a literal up to the first such quote
that makes no pair with a backslash, whatever comes then; without one the literal does
not end, and the fault is told of where it starts.

## Main statements

- `Lexer.readToken_quote`: the literal that a quote opens
- `Lexer.tokensFrom_literal`: what is behind a literal is read as before
- `Lexer.exists_unexpectedEnd_iff`: which literals do not end
- `Lexer.tokensFrom_quote`: the literals in quotes of either kind
-/

namespace ScalarExpr

theorem Quote.not_isSeparator (quote : Quote) : ¬ Text.isSeparator quote.char := by
  cases quote <;> decide

section

variable [Regex.Engine]

namespace Lexer

variable {quote : Quote} {operandExpected : Bool} {cs written body rest : List Char}

theorem readToken_quote_eq (quote : Quote) (operandExpected : Bool) (cs : List Char) :
    readToken operandExpected quote.char cs = asLiteral (readString quote.char cs) :=
  readToken_of_isQuote quote.char_eq.symm operandExpected cs

/-- A quote opens the literal that is written up to the first quote of its kind that makes
    no pair with a backslash. -/
theorem readToken_quote {s : String} :
    readToken operandExpected quote.char cs = .ok (.literal (.string s), rest) ↔
      ∃ written, cs = written ++ quote.char :: rest ∧
        Unescapes quote.char written s.toList := by
  rw [← stringBody_eq_some_iff quote.char_ne_backslash, readToken_quote_eq, readString]
  cases stringBody quote.char cs with
  | none => simp [asLiteral]
  | some read =>
    obtain ⟨body, rest'⟩ := read
    have hbody : String.ofList body = s ↔ body = s.toList := by
      constructor
      · rintro rfl
        exact String.toList_ofList.symm
      · rintro rfl
        exact String.ofList_toList
    simp [asLiteral, hbody]

/-- The text behind a literal is read in the state that the literal leaves. -/
theorem tokensFrom_literal (h : Unescapes quote.char written body) (operandExpected : Bool)
    (offset : Nat) (rest : List Char) :
    tokensFrom operandExpected offset (quote.char :: (written ++ quote.char :: rest)) =
      (tokensFrom false
        (offset + Text.byteLength (quote.char :: (written ++ [quote.char]))) rest).map
        (⟨.literal (.string (String.ofList body)), offset⟩ :: ·) := by
  have hsplit : quote.char :: (written ++ quote.char :: rest) =
      quote.char :: (written ++ [quote.char]) ++ rest := by simp
  rw [← String.toList_ofList (l := body)] at h
  have hread : readToken operandExpected quote.char (written ++ [quote.char] ++ rest) =
      .ok (.literal (.string (String.ofList body)), rest) :=
    readToken_quote.2 ⟨written, by simp, h⟩
  rw [hsplit, tokensFrom_cons quote.not_isSeparator hread]
  rfl

/-- What cannot be read of a text starts in it or behind it. -/
theorem le_offset_of_fault {offset start : Nat} {fault : LexFault} {shown : String}
    (h : tokensFrom operandExpected offset cs = .error (.lex fault start shown)) :
    offset ≤ start := by
  obtain ⟨_, front, _, _, _, _, _, heq, _⟩ := exists_front_of_fault h
  cases heq
  exact Nat.le_add_right offset (Text.byteLength front)

/-- A literal does not end if no quote is reached. -/
theorem exists_unexpectedEnd_iff (quote : Quote) (operandExpected : Bool) (offset : Nat)
    (cs : List Char) :
    (∃ shown, tokensFrom operandExpected offset (quote.char :: cs) =
        .error (.lex .unexpectedEndOfString offset shown)) ↔
      ¬ ∃ written body rest, cs = written ++ quote.char :: rest ∧
        Unescapes quote.char written body := by
  constructor
  · rintro ⟨shown, herror⟩ ⟨written, body, rest, rfl, h⟩
    -- the literal is read, so that no fault can be told of its start
    rw [tokensFrom_literal h] at herror
    cases hrest : tokensFrom false
        (offset + Text.byteLength (quote.char :: (written ++ [quote.char]))) rest with
    | ok tokens =>
      rw [hrest] at herror
      cases herror
    | error e =>
      rw [hrest] at herror
      cases herror
      have hle := le_offset_of_fault hrest
      have hpos := Text.byteLength_pos (List.cons_ne_nil quote.char (written ++ [quote.char]))
      omega
  · intro hnone
    have hbody : stringBody quote.char cs = none := by
      rw [Option.eq_none_iff_forall_ne_some]
      rintro ⟨body, rest⟩ hbody
      obtain ⟨written, hcs, h⟩ := exists_unescapes_of_stringBody hbody
      exact hnone ⟨written, body, rest, hcs, h⟩
    have hread : readToken operandExpected quote.char cs = .error .unexpectedEndOfString := by
      rw [readToken_quote_eq, readString, hbody]
      rfl
    have hgap : ∀ c ∈ ([] : List Char), Text.isSeparator c := List.forall_mem_nil _
    exact ⟨_, tokensFrom_gap_of_fault hgap quote.not_isSeparator hread offset⟩

/-- String literals in quotes of one kind, in either state and anywhere in a text. Every
    text is one, each such quote and each backslash of its own behind a backslash, and what
    comes then is read where it stands. A quote opens a literal that goes up to the first
    quote that is reached by taking a backslash with such a quote or a backslash behind it
    for one character, and every other backslash as it is; and if there is none, the fault
    is that the literal does not end. -/
theorem tokensFrom_quote (quote : Quote) (operandExpected : Bool) (offset : Nat) :
    (∀ (s : String) (rest : List Char),
      tokensFrom operandExpected offset
          (quote.char :: (quote.escape s.toList ++ quote.char :: rest)) =
        (tokensFrom false
          (offset + Text.byteLength (quote.char :: (quote.escape s.toList ++ [quote.char])))
          rest).map (⟨.literal (.string s), offset⟩ :: ·)) ∧
    (∀ written body rest, Unescapes quote.char written body →
      tokensFrom operandExpected offset (quote.char :: (written ++ quote.char :: rest)) =
        (tokensFrom false
          (offset + Text.byteLength (quote.char :: (written ++ [quote.char]))) rest).map
          (⟨.literal (.string (String.ofList body)), offset⟩ :: ·)) ∧
    (∀ cs s rest, readToken operandExpected quote.char cs = .ok (.literal (.string s), rest) ↔
      ∃ written, cs = written ++ quote.char :: rest ∧ Unescapes quote.char written s.toList) ∧
    ∀ cs, (∃ shown, tokensFrom operandExpected offset (quote.char :: cs) =
        .error (.lex .unexpectedEndOfString offset shown)) ↔
      ¬ ∃ written body rest, cs = written ++ quote.char :: rest ∧
        Unescapes quote.char written body := by
  refine ⟨fun s rest => ?_, fun written body rest h => ?_, fun cs s rest => ?_, fun cs => ?_⟩
  · have hescape : Unescapes quote.char (quote.escape s.toList) s.toList := unescapes_flatMap _ _
    have hliteral := tokensFrom_literal hescape operandExpected offset rest
    rwa [String.ofList_toList] at hliteral
  · exact tokensFrom_literal h operandExpected offset rest
  · exact readToken_quote
  · exact exists_unexpectedEnd_iff quote operandExpected offset cs

end Lexer

end

namespace Lexer

/-- In single quotes a backslash is left out before a single quote and before a backslash,
    and kept before an `n`; the other quote means nothing there. -/
theorem tokensFrom_quote_of_pairs :
    let written := ['a', '\\', '\'', '"', '\\', 'n', '\\', '\\']
    let body := ['a', '\'', '"', '\\', 'n', '\\']
    Unescapes '\'' written body ∧
      tokensFrom false 3 ('\'' :: (written ++ '\'' :: ['x'])) =
        .ok [⟨.literal (.string (String.ofList body)), 3⟩, ⟨.variable "x", 13⟩] := by
  intro written body
  have hwritten : Unescapes '\'' written body := by
    apply Unescapes.plain (by decide) (by decide)
    apply Unescapes.pair (.inl rfl)
    apply Unescapes.plain (by decide) (by decide)
    apply Unescapes.kept (by decide) (by decide)
    exact .pair (.inr rfl) .nil
  have hrest : tokensFrom false 13 ['x'] = .ok [⟨.variable "x", 13⟩] :=
    tokensFrom_eq_cons rfl rfl tokensFrom_nil
  refine ⟨hwritten, ((tokensFrom_quote .single false 3).2.1 written body ['x'] hwritten).trans ?_⟩
  change (tokensFrom false 13 ['x']).map _ = _
  rw [hrest]
  rfl

end Lexer

end ScalarExpr

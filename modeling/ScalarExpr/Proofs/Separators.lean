import ScalarExpr.Proofs.Tiling
import ScalarExpr.Regex.Dialect
/-!
# Separators mean nothing

The ranges of the tokens of a text can be put together again with other separators
between them, and the text is read as tokens of the same kinds. What stands behind a
separator is read as a text of its own, in the state in which the text before it ends,
and starts as many bytes later as that text is long.

## Main definitions

- `Lexer.shifted` — what is read of a text, moved to where the text starts

## Main statements

- `Lexer.tokensFrom_add`: where a text starts moves its tokens, and its fault, and has no
  other effect
- `Lexer.Tiled.tokensFrom_append`: a text is read up to a separator as it is by itself
- `tokenize_separators`: tokens can be separated otherwise, and texts be put together
-/

namespace ScalarExpr

section

variable [Regex.Engine]

def Token.shift (n : Nat) (t : Token) : Token := { t with offset := n + t.offset }

/-- The error of a text that starts so many bytes later. -/
def Error.shift (n : Nat) : Error → Error
  | .lex fault offset text => .lex fault (n + offset) text
  | e => e

namespace Lexer

/-- What is read of a text, with the offsets counted from so many bytes before it. -/
def shifted (n : Nat) : Except Error (List Token) → Except Error (List Token)
  | .ok tokens => .ok (tokens.map (Token.shift n))
  | .error e => .error (e.shift n)

variable {operandExpected : Bool} {before cs : List Char} {tokens : List Token}

theorem tokensFrom_add (operandExpected : Bool) (n offset : Nat) (cs : List Char) :
    tokensFrom operandExpected (n + offset) cs =
      shifted n (tokensFrom operandExpected offset cs) := by
  have hrun := reads_tokensFrom operandExpected offset cs
  generalize tokensFrom operandExpected offset cs = result at hrun ⊢
  induction hrun with
  | done hgap => exact Reads.tokensFrom_eq (.done hgap)
  | fault hgap hc hread =>
    rw [tokensFrom_gap_of_fault hgap hc hread, Nat.add_assoc]
    rfl
  | @token _ _ _ _ _ _ _ result hgap hc hread _ ih =>
    rw [tokensFrom_gap hgap hc hread, Nat.add_assoc, Nat.add_assoc, ih]
    cases result <;> rfl

/-- Separators are passed over. -/
theorem tokensFrom_append_of_forall {gap : List Char} (hgap : ∀ c ∈ gap, Text.isSeparator c)
    (operandExpected : Bool) (offset : Nat) (cs : List Char) :
    tokensFrom operandExpected offset (gap ++ cs) =
      tokensFrom operandExpected (offset + Text.byteLength gap) cs := by
  have hdrop : (gap ++ cs).dropWhile Text.isSeparator = cs.dropWhile Text.isSeparator :=
    List.dropWhile_append_of_pos hgap
  have htake : offset + Text.byteLength ((gap ++ cs).takeWhile Text.isSeparator) =
      offset + Text.byteLength gap + Text.byteLength (cs.takeWhile Text.isSeparator) := by
    rw [List.takeWhile_append_of_pos hgap, Text.byteLength_append, Nat.add_assoc]
  cases hcs : cs.dropWhile Text.isSeparator with
  | nil => rw [tokensFrom_of_dropWhile_eq_nil (hdrop.trans hcs), tokensFrom_of_dropWhile_eq_nil hcs]
  | cons c tail =>
    cases hread : readToken operandExpected c tail with
    | error fault =>
      rw [tokensFrom_of_fault (hdrop.trans hcs) hread, tokensFrom_of_fault hcs hread, htake]
    | ok read =>
      rw [tokensFrom_of_readToken (hdrop.trans hcs) hread, tokensFrom_of_readToken hcs hread, htake]

theorem map_append_nil (read : Except Error (List Token)) : read.map ([] ++ ·) = read := by
  cases read <;> rfl

/-- A text is read up to a separator as it is by itself, and then the text behind it. -/
theorem Tiled.tokensFrom_append (h : Tiled operandExpected before cs tokens) {gap : List Char}
    (hgap : gap ≠ []) (hseparator : ∀ c ∈ gap, Text.isSeparator c) (behind : List Char) :
    tokensFrom operandExpected (Text.byteLength before) (cs ++ (gap ++ behind)) =
      (tokensFrom (stateAfter operandExpected tokens) (Text.byteLength (before ++ (cs ++ gap)))
        behind).map (tokens ++ ·) := by
  induction h with
  | @nil _ before lead hlead =>
    have hall : ∀ c ∈ lead ++ gap, Text.isSeparator c := by
      intro c hc
      rcases List.mem_append.1 hc with hc | hc
      · exact hlead c hc
      · exact hseparator c hc
    rw [← List.append_assoc, tokensFrom_append_of_forall hall, map_append_nil, stateAfter,
      Text.byteLength_append before]
  | @cons _ before lead tail rest c kind tokens hlead hc hread _ ih =>
    have hends : EndsLike (rest ++ (gap ++ behind)) rest := by
      cases rest with
      | nil => exact .inl ((separated_of_forall hseparator).append hgap behind)
      | cons d rest => exact .inr rfl
    have hstep := tokensFrom_gap hlead hc (readToken_of_endsLike hread hends)
      (Text.byteLength before)
    simp only [List.append_assoc, Text.byteLength_append, stateAfter] at ih hstep ⊢
    rw [hstep, Nat.add_assoc, ih]
    cases tokensFrom (stateAfter kind.expectsOperand tokens) _ behind <;> rfl

/-- The ranges of tokens read as these tokens. -/
theorem Tiled.lexAll (h : Tiled operandExpected before cs tokens) :
    LexAll operandExpected (tokens.map Token.kind) (ranges (before ++ cs) tokens) := by
  induction h with
  | nil _ => exact .nil
  | @cons _ before gap tail rest c kind tokens _ hc hread behind ih =>
    have hwhole : before ++ (gap ++ (c :: tail ++ rest)) = before ++ gap ++ (c :: tail ++ rest) := by
      simp
    rw [← List.append_assoc] at behind ih
    have hrange := range_eq_of_tiled (t := ⟨kind, Text.byteLength (before ++ gap)⟩) rfl
      (tight_of_readToken hc hread) behind
    rw [List.append_assoc (before ++ gap)] at ih
    rw [hwhole, ranges, hrange]
    exact .cons (lexesAs_of_taken hc hread) ih

end Lexer

end

open Lexer

/-- Separators have no meaning. The ranges of the tokens of a text, with any separators
    between them and around them, are read as tokens of the same kinds; and a text up to
    a separator is read as it is by itself, what is behind it as it is from the state
    that this text leaves. -/
theorem tokenize_separators [Regex.Engine] {a : String} {tokens : List Token}
    (h : tokenize a = .ok tokens) :
    (∀ (lead cs trail : List Char) (text : String), (∀ c ∈ lead, Text.isSeparator c) →
      (∀ c ∈ trail, Text.isSeparator c) → Spaced (ranges a.toList tokens) cs →
      text.toList = lead ++ (cs ++ trail) →
      ∃ tokens', tokenize text = .ok tokens' ∧ tokens'.map Token.kind = tokens.map Token.kind) ∧
    ∀ s b : String, s ≠ "" → (∀ c ∈ s.toList, Text.isSeparator c) →
      tokenize (a ++ s ++ b) =
        (shifted (Text.byteLength (a ++ s).toList)
          (tokensFrom (stateAfter true tokens) 0 b.toList)).map (tokens ++ ·) := by
  have htiled : Tiled true [] a.toList tokens := tiled_of_tokensFrom h
  refine ⟨fun lead cs trail text hlead htrail hcs htext => ?_, fun s b hs hseparator => ?_⟩
  · rw [tokenize, htext]
    exact tokensFrom_of_lexAll htiled.lexAll hcs hlead htrail 0
  · have hgap : s.toList ≠ [] := by simpa using hs
    have happend := htiled.tokensFrom_append hgap hseparator b.toList
    rw [← tokensFrom_add, tokenize, String.toList_append, String.toList_append, List.append_assoc]
    exact happend

/-- The tokens of `-x/y` separated otherwise, and a slash behind them that divides too; the
    fault that comes later is told where it stands in the whole text. -/
theorem tokenize_separators_of_division :
    let tokens : List Token :=
      [⟨.operator (.unary .minus), 0⟩, ⟨.variable "x", 1⟩,
       ⟨.operator (.arithmetic .divide), 2⟩, ⟨.variable "y", 3⟩]
    tokenize "-x/y" = .ok tokens ∧
      (∃ tokens', tokenize ",- x\t/,y\n" = .ok tokens' ∧
        tokens'.map Token.kind = tokens.map Token.kind) ∧
      tokenize ("-x/y" ++ " ," ++ "/b #") = .error (.lex .unknownToken 9 "#") := by
  intro tokens
  have htokens : tokenize "-x/y" = .ok tokens :=
    tokensFrom_eq_cons rfl rfl <| tokensFrom_eq_cons rfl rfl <| tokensFrom_eq_cons rfl rfl <|
      tokensFrom_eq_cons rfl rfl <| tokensFrom_of_dropWhile_eq_nil rfl
  have hranges : ranges "-x/y".toList tokens = [['-'], ['x'], ['/'], ['y']] := by decide +kernel
  have hspaced : Spaced [['-'], ['x'], ['/'], ['y']]
      (['-'] ++ ([' '] ++ (['x'] ++ (['\t'] ++ (['/'] ++ ([','] ++ ['y'])))))) :=
    .cons _ (by decide) (List.forall_mem_singleton.2 rfl) <|
      .cons _ (by decide) (List.forall_mem_singleton.2 rfl) <|
        .cons _ (by decide) (List.forall_mem_singleton.2 rfl) <| .single _
  have hfault : tokensFrom (stateAfter true tokens) 0 "/b #".toList =
      .error (.lex .unknownToken 3 "#") := by
    refine (tokensFrom_of_readToken rfl rfl).trans ?_
    rw [tokensFrom_of_readToken rfl rfl, tokensFrom_of_fault rfl rfl]
    rfl
  obtain ⟨hregap, hbehind⟩ := tokenize_separators htokens
  refine ⟨htokens, ?_, ?_⟩
  · rw [← hranges] at hspaced
    exact hregap [','] _ ['\n'] ",- x\t/,y\n" (List.forall_mem_singleton.2 rfl)
      (List.forall_mem_singleton.2 rfl) hspaced rfl
  · rw [hbehind " ," "/b #" (by decide) (List.all_eq_true.1 rfl), hfault]
    rfl

end ScalarExpr

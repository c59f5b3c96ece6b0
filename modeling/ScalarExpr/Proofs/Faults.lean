import ScalarExpr.Proofs.Octets
import ScalarExpr.Proofs.Tiling
import ScalarExpr.Regex.Dialect
/-!
# Where reading stops

A text can be cut in front of any of its tokens, and in front of what is no token. What
stands before the cut is read by itself as it is within the whole text, for a reader
looks at one character behind its token at most, and the end of a text ends a token
wherever this character does. So a fault is told of the first place at which no token
can be read.

## Main statements

- `Lexer.tokensFrom_cut`: a token is read as before if the text behind it is cut
- `Lexer.exists_front_of_fault`, `Lexer.exists_front_of_token`: the text before a fault and
  before a token
- `tokenize_front`: what a fault is told of, and what is read of the text before it or
  before a token
-/

namespace ScalarExpr

namespace Lexer

/-- What is left of a text ends a token like the whole text, or by its own end. -/
theorem endsLike_append (front behind : List Char) : EndsLike front (front ++ behind) := by
  cases front with
  | nil => exact separated_nil.endsLike
  | cons c front => exact .inr rfl

variable [Regex.Engine]

variable {operandExpected : Bool} {offset : Nat} {cs : List Char}

/-- A token is read as before if the text behind it is cut, and then the tokens before
    the cut. -/
theorem tokensFrom_cut {gap tail front behind : List Char} {c : Char} {kind : TokenKind}
    {tokens : List Token} (hgap : ∀ c ∈ gap, Text.isSeparator c) (hc : ¬ Text.isSeparator c)
    (hread : readToken operandExpected c (tail ++ (front ++ behind)) = .ok (kind, front ++ behind))
    (htokens : tokensFrom kind.expectsOperand
      (offset + Text.byteLength gap + Text.byteLength (c :: tail)) front = .ok tokens) :
    tokensFrom operandExpected offset (gap ++ (c :: tail ++ front)) =
      .ok (⟨kind, offset + Text.byteLength gap⟩ :: tokens) := by
  have hcut := readToken_of_endsLike hread (endsLike_append front behind)
  rw [tokensFrom_gap hgap hc hcut, htokens]
  rfl

/-- A fault is told of a place where no token can be read, and up to which all tokens can. -/
theorem exists_front_of_fault {e : Error} (h : tokensFrom operandExpected offset cs = .error e) :
    ∃ fault front c behind tokens, cs = front ++ c :: behind ∧ ¬ Text.isSeparator c ∧
      e = .lex fault (offset + Text.byteLength front) (String.ofList (Text.word (c :: behind))) ∧
      readToken (stateAfter operandExpected tokens) c behind = .error fault ∧
      tokensFrom operandExpected offset front = .ok tokens := by
  have hrun := reads_tokensFrom operandExpected offset cs
  generalize tokensFrom operandExpected offset cs = result at h hrun
  induction hrun with
  | done => cases h
  | fault hgap hc hread =>
    cases h
    exact ⟨_, _, _, _, [], rfl, hc, rfl, hread, Reads.tokensFrom_eq (.done hgap)⟩
  | @token _ _ gap tail _ d kind result hgap hd hread _ ih =>
    cases result with
    | ok tokens => cases h
    | error e' =>
      cases h
      obtain ⟨fault, front, c, behind, tokens, rfl, hc, heq, hfault, htokens⟩ := ih rfl
      refine ⟨fault, gap ++ (d :: tail ++ front), c, behind, ⟨kind, _⟩ :: tokens, by simp, hc, ?_,
        hfault, tokensFrom_cut hgap hd hread htokens⟩
      rw [heq]
      simp only [Text.byteLength_append, Nat.add_assoc]

/-- Up to a token, the tokens that come before it are read. -/
theorem exists_front_of_token {earlier later : List Token} {t : Token}
    (h : tokensFrom operandExpected offset cs = .ok (earlier ++ t :: later)) :
    ∃ front behind, cs = front ++ behind ∧ t.offset = offset + Text.byteLength front ∧
      tokensFrom operandExpected offset front = .ok earlier := by
  induction earlier generalizing operandExpected offset cs with
  | nil =>
    obtain ⟨gap, hgap, ⟨_, hnil⟩ | ⟨c, tail, rest, kind, tokens, rfl, _, _, heq, _⟩⟩ :=
      exists_gap_of_tokensFrom h
    · cases hnil
    · cases heq
      exact ⟨gap, _, rfl, rfl, Reads.tokensFrom_eq (.done hgap)⟩
  | cons first earlier ih =>
    obtain ⟨gap, hgap, ⟨_, hnil⟩ | ⟨c, tail, rest, kind, tokens, rfl, hc, hread, heq, htokens⟩⟩ :=
      exists_gap_of_tokensFrom h
    · cases hnil
    · cases heq
      obtain ⟨front, behind, rfl, hoffset, hfront⟩ := ih htokens
      refine ⟨gap ++ (c :: tail ++ front), behind, by simp, ?_,
        tokensFrom_cut hgap hc hread hfront⟩
      rw [hoffset]
      simp only [Text.byteLength_append, Nat.add_assoc]

end Lexer

open Lexer

/-- A fault is told of the first place at which no token can be read. The character that
    stands there, and its first octet, separate nothing; the text before it is read by
    itself; and what is shown of the text goes on to the next white space within ASCII.
    The text before a token is read by itself as well, as the tokens before this one. -/
theorem tokenize_front [Regex.Engine] (text : String) :
    (∀ e, tokenize text = .error e →
      ∃ fault front c behind shown rest tokens,
        e = .lex fault (Text.byteLength front) (String.ofList shown) ∧
        text.toList = front ++ c :: behind ∧ ¬ Text.isSeparator c ∧
        (∃ b ∈ (Text.octets text.toList)[Text.byteLength front]?, ¬ Text.isSeparator b) ∧
        tokenize (String.ofList front) = .ok tokens ∧
        readToken (stateAfter true tokens) c behind = .error fault ∧
        c :: behind = shown ++ rest ∧ (∀ d ∈ shown, ¬ Text.isAsciiBlank d) ∧
        ∀ d ∈ rest.head?, Text.isAsciiBlank d) ∧
    ∀ earlier t later, tokenize text = .ok (earlier ++ t :: later) →
      ∃ front behind, text.toList = front ++ behind ∧ Text.byteLength front = t.offset ∧
        tokenize (String.ofList front) = .ok earlier := by
  refine ⟨fun e he => ?_, fun earlier t later htokens => ?_⟩
  · obtain ⟨fault, front, c, behind, tokens, hsplit, hc, rfl, hread, htokens⟩ :=
      exists_front_of_fault he
    obtain ⟨b, tail, hoctets, hb⟩ := Text.exists_head_octets c behind
    have hword : ∀ d ∈ Text.word (c :: behind), ¬ Text.isAsciiBlank d := by
      intro d hd
      simpa using List.mem_takeWhile_imp hd
    have hrest : ∀ d ∈ ((c :: behind).dropWhile fun d => !Text.isAsciiBlank d).head?,
        Text.isAsciiBlank d := by
      intro d hd
      have hnot := List.head?_dropWhile_not (fun d => !Text.isAsciiBlank d) (c :: behind)
      rw [Option.mem_def.1 hd] at hnot
      simpa using hnot
    have hfront : tokenize (String.ofList front) = .ok tokens := by
      rwa [tokenize, String.toList_ofList]
    refine ⟨fault, front, c, behind, Text.word (c :: behind), _, tokens, by rw [Nat.zero_add],
      hsplit, hc, ⟨b, ?_, ?_⟩, hfront, hread, List.takeWhile_append_dropWhile.symm, hword, hrest⟩
    · rw [hsplit, Text.getElem?_octets_append, hoctets]
      rfl
    · rcases hb with rfl | ⟨hb, _⟩
      · exact hc
      · exact hb.not_isSeparator
  · obtain ⟨front, behind, hsplit, hoffset, hfront⟩ := exists_front_of_token htokens
    rw [Nat.zero_add] at hoffset
    refine ⟨front, behind, hsplit, hoffset.symm, ?_⟩
    rwa [tokenize, String.toList_ofList]

/-- A quote that is never closed: the fault is told of where the variable starts, and up to
    there the text is read. With the quote closed, it is cut there as well. -/
theorem tokenize_front_of_open_quote :
    let tokens : List Token := [⟨.literal (.string "é"), 0⟩, ⟨.operator (.arithmetic .plus), 5⟩]
    tokenize "'é' + $['a b" = .error (.lex .unexpectedEndOfString 7 "$['a") ∧
      tokenize "'é' + $['a b']" = .ok (tokens ++ [⟨.variable "$['a b']", 7⟩]) ∧
      (∃ front c behind tokens', "'é' + $['a b".toList = front ++ c :: behind ∧
        Text.byteLength front = 7 ∧ tokenize (String.ofList front) = .ok tokens' ∧
        readToken (stateAfter true tokens') c behind = .error .unexpectedEndOfString) ∧
      ∃ front behind, "'é' + $['a b']".toList = front ++ behind ∧ Text.byteLength front = 7 ∧
        tokenize (String.ofList front) = .ok tokens := by
  intro tokens
  have htext : "'é' + $['a b".toList =
      ['\'', 'é', '\'', ' ', '+', ' ', '$', '[', '\'', 'a', ' ', 'b'] := by decide +kernel
  have htext' : "'é' + $['a b']".toList =
      ['\'', 'é', '\'', ' ', '+', ' ', '$', '[', '\'', 'a', ' ', 'b', '\'', ']'] := by
    decide +kernel
  have hpath : String.ofList ['$', '[', '\'', 'a', ' ', 'b', '\'', ']'] = "$['a b']" := by
    decide +kernel
  have hopen : tokenize "'é' + $['a b" = .error (.lex .unexpectedEndOfString 7 "$['a") := by
    rw [tokenize, htext, tokensFrom_of_readToken rfl rfl, tokensFrom_of_readToken rfl rfl,
      tokensFrom_of_fault rfl rfl]
    rfl
  have hclosed : tokenize "'é' + $['a b']" = .ok (tokens ++ [⟨.variable "$['a b']", 7⟩]) := by
    rw [tokenize, htext', ← hpath]
    exact tokensFrom_eq_cons rfl rfl <| tokensFrom_eq_cons rfl rfl <| tokensFrom_eq_cons rfl rfl <|
      tokensFrom_nil
  obtain ⟨fault, front, c, behind, shown, rest, tokens', heq, hsplit, _, _, hfront, hread, _⟩ :=
    (tokenize_front "'é' + $['a b").1 _ hopen
  injection heq with hfault hoffset
  subst hfault
  exact ⟨hopen, hclosed, ⟨front, c, behind, tokens', hsplit, hoffset.symm, hfront, hread⟩,
    (tokenize_front "'é' + $['a b']").2 _ _ _ hclosed⟩

end ScalarExpr

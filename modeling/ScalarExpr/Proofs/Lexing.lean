import ScalarExpr.Proofs.Lexemes
/-!
# Texts read back token by token

A token is written in its canonical form. Where nothing or a separator follows,
reading it in a state in which it can occur gives the token back, so a text of
such tokens with separators between them is read as these tokens.

## Main definitions

- `Regexp.IsWritable` — the regular expressions that are read back from their writing
- `Operand.IsLiteral`, `IsVariable` — what literals and variables may be
- `TokenKind.ReadableIn` — the tokens that can be read in a state
- `Lexer.LexesAs` — a text that reads as one token
- `Lexer.ReadBy` — the readers that a token may come from

## Main statements

- `Lexer.readBy_of_readToken`: a token that is read comes from one of the readers
- `Lexer.lexesAs_display`: the writing of a readable token reads as that token
-/

namespace ScalarExpr

namespace Lexer

theorem map_eq_ok_iff {ε α β : Type} {r : Except ε α} {f : α → β} {b : β} :
    r.map f = .ok b ↔ ∃ a, r = .ok a ∧ f a = b := by
  cases r <;> simp [Except.map]

end Lexer

variable [Regex.Engine]

/-- Each backslash of the source takes a character along, pairs being made from the left, and
    none takes a slash along. -/
structure Regexp.IsWritable (r : Regexp) : Prop where
  isPaired : Regex.isPaired r.source.toList
  slashesBare : '/' ∉ Regex.escaped r.source.toList

/-- What a literal stands for, infinities aside: a number has a clear sign, and a
    regular expression is read from a literal. -/
def Operand.IsLiteral : Operand → Prop
  | .number n => ∃ m, n = .finite false m
  | .regexp r => ∃ cs rest, Lexer.readRegexp cs = .ok (.regexp r, rest)
  | .undefined => False
  | .string _ | .boolean _ | .null => True

/-- The path of a variable: some text reads as this variable and nothing else. -/
def IsVariable (path : String) : Prop :=
  ∃ text offset, tokenize text = .ok [⟨.variable path, offset⟩]

/-- A token that can be read where an operand is expected, or where none is. A
    regular expression starts like a division, and the sign of a number like a
    subtraction; what they are depends on the state. -/
def TokenKind.ReadableIn (operandExpected : Bool) : TokenKind → Prop
  | .literal value => value.IsLiteral ∧ (∀ r, value = .regexp r → operandExpected = true)
  | .operator op =>
    (op = .unary .minus → operandExpected = true) ∧
      (op = .arithmetic .minus ∨ op = .arithmetic .divide → operandExpected = false)
  | .variable path => IsVariable path
  | .leftParen | .rightParen => True

namespace Lexer

/-- A text that reads as one token wherever a separator or nothing follows. -/
def LexesAs (operandExpected : Bool) (cs : List Char) (kind : TokenKind) : Prop :=
  ∃ c tail, cs = c :: tail ∧ ¬ Text.isSeparator c ∧
    ∀ rest, Separated rest → readToken operandExpected c (tail ++ rest) = .ok (kind, rest)

-- ════════════════════════════════════════════════════════════════════════
-- Tokens one after another
-- ════════════════════════════════════════════════════════════════════════

variable {operandExpected : Bool} {offset : Nat} {cs : List Char}

theorem tokensFrom_of_dropWhile_eq_nil (h : cs.dropWhile Text.isSeparator = []) :
    tokensFrom operandExpected offset cs = .ok [] := by
  unfold tokensFrom
  split
  · rfl
  · rename_i hcs
    rw [h] at hcs
    cases hcs

theorem tokensFrom_nil : tokensFrom operandExpected offset [] = .ok [] :=
  tokensFrom_of_dropWhile_eq_nil rfl

theorem tokensFrom_of_fault {c : Char} {tail : List Char} {fault : LexFault}
    (hcs : cs.dropWhile Text.isSeparator = c :: tail)
    (hread : readToken operandExpected c tail = .error fault) :
    tokensFrom operandExpected offset cs =
      .error (.lex fault (offset + Text.byteLength (cs.takeWhile Text.isSeparator))
        (String.ofList (Text.word (c :: tail)))) := by
  unfold tokensFrom
  split
  · rename_i hcs'
    rw [hcs] at hcs'
    cases hcs'
  · rename_i c' tail' hcs'
    rw [hcs] at hcs'
    cases hcs'
    split
    · rename_i fault' hfault
      rw [hread] at hfault
      cases hfault
      rfl
    · rename_i kind rest hkind
      rw [hread] at hkind
      cases hkind

theorem tokensFrom_of_readToken {c : Char} {tail rest : List Char} {kind : TokenKind}
    (hcs : cs.dropWhile Text.isSeparator = c :: tail)
    (hread : readToken operandExpected c tail = .ok (kind, rest)) :
    tokensFrom operandExpected offset cs =
      (tokensFrom kind.expectsOperand
        (offset + Text.byteLength (cs.takeWhile Text.isSeparator) +
          (Text.byteLength (c :: tail) - Text.byteLength rest)) rest).map
        (⟨kind, offset + Text.byteLength (cs.takeWhile Text.isSeparator)⟩ :: ·) := by
  conv =>
    lhs
    unfold tokensFrom
  split
  · rename_i hcs'
    rw [hcs] at hcs'
    cases hcs'
  · rename_i c' tail' hcs'
    rw [hcs] at hcs'
    cases hcs'
    split
    · rename_i fault hfault
      rw [hread] at hfault
      cases hfault
    · rename_i kind' rest' hkind
      rw [hread] at hkind
      cases hkind
      dsimp only
      split <;> rename_i h <;> rw [h] <;> rfl

theorem exists_readToken_of_tokensFrom {tokens : List Token}
    (h : tokensFrom operandExpected offset cs = .ok tokens) :
    (cs.dropWhile Text.isSeparator = [] ∧ tokens = []) ∨
      ∃ c tail kind rest start offset' tokens', cs.dropWhile Text.isSeparator = c :: tail ∧
        readToken operandExpected c tail = .ok (kind, rest) ∧
        tokensFrom kind.expectsOperand offset' rest = .ok tokens' ∧
        tokens = ⟨kind, start⟩ :: tokens' := by
  cases hcs : cs.dropWhile Text.isSeparator with
  | nil =>
    rw [tokensFrom_of_dropWhile_eq_nil hcs] at h
    cases h
    exact .inl ⟨rfl, rfl⟩
  | cons c tail =>
    right
    cases hread : readToken operandExpected c tail with
    | error fault =>
      rw [tokensFrom_of_fault hcs hread] at h
      cases h
    | ok read =>
      obtain ⟨kind, rest⟩ := read
      rw [tokensFrom_of_readToken hcs hread] at h
      obtain ⟨tokens', htokens, rfl⟩ := map_eq_ok_iff.1 h
      exact ⟨c, tail, kind, rest, _, _, tokens', rfl, hread, htokens, rfl⟩

/-- Behind separators a token is read, and then the others from what it leaves. -/
theorem tokensFrom_gap {gap tail rest : List Char} {c : Char} {kind : TokenKind}
    (hgap : ∀ c ∈ gap, Text.isSeparator c) (hc : ¬ Text.isSeparator c)
    (hread : readToken operandExpected c (tail ++ rest) = .ok (kind, rest)) (offset : Nat) :
    tokensFrom operandExpected offset (gap ++ (c :: tail ++ rest)) =
      (tokensFrom kind.expectsOperand
        (offset + Text.byteLength gap + Text.byteLength (c :: tail)) rest).map
        (⟨kind, offset + Text.byteLength gap⟩ :: ·) := by
  have hdrop : (gap ++ (c :: tail ++ rest)).dropWhile Text.isSeparator = c :: (tail ++ rest) := by
    rw [List.dropWhile_append_of_pos hgap, List.cons_append, List.dropWhile_cons_of_neg hc]
  have htake : (gap ++ (c :: tail ++ rest)).takeWhile Text.isSeparator = gap := by
    rw [List.takeWhile_append_of_pos hgap, List.cons_append, List.takeWhile_cons_of_neg hc,
      List.append_nil]
  have hlength : Text.byteLength (c :: (tail ++ rest)) - Text.byteLength rest =
      Text.byteLength (c :: tail) := by
    simp only [Text.byteLength_cons, Text.byteLength_append]
    omega
  rw [tokensFrom_of_readToken hdrop hread, htake, hlength]

/-- Behind separators nothing can be read. -/
theorem tokensFrom_gap_of_fault {gap behind : List Char} {c : Char} {fault : LexFault}
    (hgap : ∀ c ∈ gap, Text.isSeparator c) (hc : ¬ Text.isSeparator c)
    (hread : readToken operandExpected c behind = .error fault) (offset : Nat) :
    tokensFrom operandExpected offset (gap ++ c :: behind) =
      .error (.lex fault (offset + Text.byteLength gap)
        (String.ofList (Text.word (c :: behind)))) := by
  have hdrop : (gap ++ c :: behind).dropWhile Text.isSeparator = c :: behind := by
    rw [List.dropWhile_append_of_pos hgap, List.dropWhile_cons_of_neg hc]
  have htake : (gap ++ c :: behind).takeWhile Text.isSeparator = gap := by
    rw [List.takeWhile_append_of_pos hgap, List.takeWhile_cons_of_neg hc, List.append_nil]
  rw [tokensFrom_of_fault hdrop hread, htake]

theorem tokensFrom_cons {tail rest : List Char} {c : Char} {kind : TokenKind}
    (hc : ¬ Text.isSeparator c)
    (hread : readToken operandExpected c (tail ++ rest) = .ok (kind, rest)) (offset : Nat) :
    tokensFrom operandExpected offset (c :: tail ++ rest) =
      (tokensFrom kind.expectsOperand (offset + Text.byteLength (c :: tail)) rest).map
        (⟨kind, offset⟩ :: ·) := by
  have hgap : ∀ d ∈ ([] : List Char), Text.isSeparator d := List.forall_mem_nil _
  exact tokensFrom_gap hgap hc hread offset

/-- A token that is read after separators is the first of the tokens. -/
theorem tokensFrom_of_lexesAs {gap rest : List Char} {kind : TokenKind} {tokens : List Token}
    (hgap : ∀ c ∈ gap, Text.isSeparator c) (h : LexesAs operandExpected cs kind)
    (hrest : Separated rest) (offset : Nat)
    (htokens : tokensFrom kind.expectsOperand
      (offset + Text.byteLength gap + Text.byteLength cs) rest = .ok tokens) :
    tokensFrom operandExpected offset (gap ++ (cs ++ rest)) =
      .ok (⟨kind, offset + Text.byteLength gap⟩ :: tokens) := by
  obtain ⟨c, tail, rfl, hc, hread⟩ := h
  rw [tokensFrom_gap hgap hc (hread rest hrest), htokens]
  rfl

/-- A text that reads as one token has no other token. -/
theorem tokensFrom_lone {kind : TokenKind} (h : LexesAs operandExpected cs kind) (offset : Nat) :
    tokensFrom operandExpected offset cs = .ok [⟨kind, offset⟩] := by
  obtain ⟨c, tail, rfl, hc, hread⟩ := h
  have hcons := tokensFrom_cons hc (hread [] separated_nil) offset
  rw [List.append_nil, tokensFrom_nil] at hcons
  exact hcons

/-- Each piece of text reads as a token of its kind in the state that the one before it
    leaves. -/
inductive LexAll : Bool → List TokenKind → List (List Char) → Prop where
  | nil {operandExpected : Bool} : LexAll operandExpected [] []
  | cons {operandExpected : Bool} {kind : TokenKind} {kinds : List TokenKind} {piece : List Char}
    {pieces : List (List Char)} (hpiece : LexesAs operandExpected piece kind)
    (behind : LexAll kind.expectsOperand kinds pieces) :
    LexAll operandExpected (kind :: kinds) (piece :: pieces)

/-- The pieces one after another, with separators between each two of them. -/
inductive Spaced : List (List Char) → List Char → Prop where
  | nil : Spaced [] []
  | single (piece : List Char) : Spaced [piece] piece
  | cons {next gap cs : List Char} {pieces : List (List Char)} (piece : List Char) (hgap : gap ≠ [])
    (hseparator : ∀ c ∈ gap, Text.isSeparator c) (behind : Spaced (next :: pieces) cs) :
    Spaced (piece :: next :: pieces) (piece ++ (gap ++ cs))

/-- Pieces that read as tokens are read as these tokens with separators between them,
    before them and behind them. -/
theorem tokensFrom_of_lexAll {kinds : List TokenKind} {pieces : List (List Char)}
    (h : LexAll operandExpected kinds pieces) (hcs : Spaced pieces cs) {lead trail : List Char}
    (hlead : ∀ c ∈ lead, Text.isSeparator c) (htrail : ∀ c ∈ trail, Text.isSeparator c)
    (offset : Nat) :
    ∃ tokens, tokensFrom operandExpected offset (lead ++ (cs ++ trail)) = .ok tokens ∧
      tokens.map Token.kind = kinds := by
  have hend : trail.dropWhile Text.isSeparator = [] := by
    rw [← List.append_nil trail, List.dropWhile_append_of_pos htrail]
    rfl
  induction hcs generalizing operandExpected kinds lead offset with
  | nil =>
    cases h
    refine ⟨[], tokensFrom_of_dropWhile_eq_nil ?_, rfl⟩
    rw [List.dropWhile_append_of_pos hlead]
    exact hend
  | single piece =>
    cases h with
    | cons hpiece behind =>
      cases behind
      exact ⟨_, tokensFrom_of_lexesAs hlead hpiece (separated_of_forall htrail) offset
        (tokensFrom_of_dropWhile_eq_nil hend), rfl⟩
  | @cons next gap cs pieces piece hgap hseparator _ ih =>
    cases h with
    | cons hpiece behind =>
      obtain ⟨tokens, htokens, hkinds⟩ := ih behind hseparator
        (offset + Text.byteLength lead + Text.byteLength piece)
      have hseparated := (separated_of_forall hseparator).append hgap (cs ++ trail)
      rw [List.append_assoc, List.append_assoc]
      refine ⟨_, tokensFrom_of_lexesAs hlead hpiece hseparated offset htokens, ?_⟩
      rw [List.map_cons, hkinds]

theorem readToken_digit {c : Char} (h : c.isDigit) (operandExpected : Bool) (cs : List Char) :
    readToken operandExpected c cs = asLiteral (readNumber (c :: cs)) := by
  have hleft : c ≠ '(' := fun hc => absurd h (hc ▸ by decide)
  have hright : c ≠ ')' := fun hc => absurd h (hc ▸ by decide)
  rw [readToken, if_neg hleft, if_neg hright,
    read?_eq_none_of_not_isStart (not_isStart_of_isDigit h)]
  exact if_pos h

theorem readToken_of_isQuote {c : Char} (hquote : c = '"' ∨ c = '\'') (operandExpected : Bool)
    (cs : List Char) : readToken operandExpected c cs = asLiteral (readString c cs) := by
  rcases hquote with rfl | rfl <;>
  · rw [readToken, read?_eq_none_of_not_isStart (by decide)]
    rfl

theorem readToken_startsVariable {c : Char} (h : startsVariable c) (operandExpected : Bool)
    (cs : List Char) :
    readToken operandExpected c cs =
      ((readKeyword? (c :: cs)).map fun read => .ok (.literal read.1, read.2)).getD
        (readVariable (c :: cs)) := by
  have hne : ∀ d, ¬ startsVariable d → c ≠ d := fun d hd hc => hd (hc ▸ h)
  rw [readToken, if_neg (hne '(' (by decide)), if_neg (hne ')' (by decide)),
    read?_eq_none_of_not_isStart (not_isStart_of_startsVariable h)]
  simp only [not_isDigit_of_startsVariable h, hne '"' (by decide), hne '\'' (by decide), h,
    or_self, if_false, if_true]
  cases readKeyword? (c :: cs) <;> rfl

theorem readToken_slash (cs : List Char) :
    readToken true '/' cs = asLiteral (readRegexp cs) := by
  have hread : Operator.read? ('/' :: cs) = some (.arithmetic .divide, cs) := rfl
  rw [readToken, hread]
  rfl

-- ════════════════════════════════════════════════════════════════════════
-- Each kind of token
-- ════════════════════════════════════════════════════════════════════════

theorem lexesAs_string (operandExpected : Bool) (s : String) :
    LexesAs operandExpected (Operand.displayString s).toList (.literal (.string s)) := by
  refine ⟨'"', _, by rw [Operand.displayString, String.toList_ofList]; rfl, by decide,
    fun rest _ => ?_⟩
  rw [readToken_of_isQuote (.inl rfl), List.append_eq, List.append_assoc, List.singleton_append,
    readString, stringBody_displayed]
  simp only [String.ofList_toList, asLiteral]

theorem lexesAs_keyword {word : String} {value : Operand} (operandExpected : Bool)
    (h : (word, value) ∈ keywords) :
    LexesAs operandExpected word.toList (.literal value) := by
  obtain ⟨c, tail, hword, hc, hread⟩ := readKeyword?_word _ h
  dsimp only at hword hread
  refine ⟨c, tail, hword, fun hsep => not_isBound_of_startsVariable hc (isBound_of_isSeparator hsep),
    fun rest hrest => ?_⟩
  rw [readToken_startsVariable hc, ← List.cons_append, ← hword,
    readKeyword?_append_of_endsName (endsName_of_separated hrest), hread]
  rfl

theorem lexesAs_number (operandExpected : Bool) (m : Magnitude) :
    LexesAs operandExpected (Double.finite false m).text
      (.literal (.number (.finite false m))) := by
  obtain ⟨c, tail, htext, hc⟩ := Decimal.exists_text_eq_cons m.shortest
  have htext : (Double.finite false m).text = c :: tail := htext
  refine ⟨c, tail, htext, fun hsep => ?_, fun rest hrest => ?_⟩
  · rcases isSeparator_iff.1 hsep with rfl | rfl | rfl | rfl | rfl | rfl <;> cases hc
  · rw [readToken_digit hc, ← List.cons_append, ← htext, readNumber_text m hrest, asLiteral]

/-- A regular expression that is read from a literal can be written again: the literal has
    no backslash left over, and the one before a slash is left out. -/
theorem isWritable_of_readRegexp {cs rest : List Char} {r : Regexp}
    (h : readRegexp cs = .ok (.regexp r, rest)) : r.IsWritable := by
  simp only [readRegexp] at h
  split at h
  · cases h
  · rename_i body behind hbody
    split at h
    · rename_i r' hr
      cases h
      have hsource : r.source.toList = body := by
        rw [(Regexp.ofSource?_eq_some_iff.1 hr).1, String.toList_ofList]
      obtain ⟨_, _, hunslashes⟩ := exists_unslashes_of_regexpBody hbody
      exact ⟨hsource ▸ hunslashes.isPaired.1, hsource ▸ hunslashes.isPaired.2⟩
    · cases h

theorem lexesAs_regexp {r : Regexp} (h : r.IsWritable) :
    LexesAs true r.display.toList (.literal (.regexp r)) := by
  refine ⟨'/', _, by rw [Regexp.display, String.toList_ofList]; rfl, by decide,
    fun rest hrest => ?_⟩
  rw [readToken_slash, List.append_eq, List.append_assoc, List.cons_append, readRegexp,
    regexpBody_escapeSlashes h.isPaired h.slashesBare]
  simp only [readFlags_letters r.flags hrest, String.ofList_toList,
    Regexp.ofSource?_eq_some_iff.2 ⟨rfl, rfl⟩, asLiteral]

theorem lexesAs_operator {operandExpected : Bool} {op : Operator}
    (h : (TokenKind.operator op).ReadableIn operandExpected) :
    LexesAs operandExpected op.spelling.toList (.operator op) := by
  obtain ⟨c, tail, hspelling, hsep, hleft, hright⟩ := exists_spelling_eq_cons op
  refine ⟨c, tail, hspelling, hsep, fun rest hrest => ?_⟩
  rw [readToken, if_neg hleft, if_neg hright, ← List.cons_append, ← hspelling,
    read?_append_separated hrest, read?_spelling]
  obtain ⟨hminus, hbinary⟩ := h
  by_cases hop : op = .unary .minus
  · simp [hop, hminus hop]
  · have hdivide : ¬ (operandExpected = true ∧ op = .arithmetic .divide) := fun hand =>
      Bool.false_ne_true ((hbinary (.inr hand.2)).symm.trans hand.1)
    have hsubtract : ¬ (operandExpected = true ∧ op = .arithmetic .minus) := fun hand =>
      Bool.false_ne_true ((hbinary (.inl hand.2)).symm.trans hand.1)
    simp [hop, hdivide, hsubtract]

/-- The readers that a token may come from, by the token and what they leave. -/
inductive ReadBy (operandExpected : Bool) (c : Char) (cs : List Char) :
    TokenKind → List Char → Prop where
  | leftParen (hc : c = '(') : ReadBy operandExpected c cs .leftParen cs
  | rightParen (hc : c = ')') : ReadBy operandExpected c cs .rightParen cs
  | operator {op : Operator} {rest : List Char}
    (hread : Operator.read? (c :: cs) = some (op, rest))
    (hbinary : operandExpected = true → op ≠ .arithmetic .minus ∧ op ≠ .arithmetic .divide) :
    ReadBy operandExpected c cs (.operator op) rest
  | negation {rest : List Char} (hexpected : operandExpected = true)
    (hread : Operator.read? (c :: cs) = some (.arithmetic .minus, rest)) :
    ReadBy operandExpected c cs (.operator (.unary .minus)) rest
  | regexp {value : Operand} {body rest : List Char} (hexpected : operandExpected = true)
    (hread : Operator.read? (c :: cs) = some (.arithmetic .divide, body))
    (hvalue : readRegexp body = .ok (value, rest)) :
    ReadBy operandExpected c cs (.literal value) rest
  | number {value : Operand} {rest : List Char} (hdigit : c.isDigit)
    (hvalue : readNumber (c :: cs) = .ok (value, rest)) :
    ReadBy operandExpected c cs (.literal value) rest
  | string {value : Operand} {rest : List Char} (hquote : c = '"' ∨ c = '\'')
    (hvalue : readString c cs = .ok (value, rest)) :
    ReadBy operandExpected c cs (.literal value) rest
  | keyword {value : Operand} {rest : List Char}
    (hread : readKeyword? (c :: cs) = some (value, rest)) :
    ReadBy operandExpected c cs (.literal value) rest
  | variable {path : String} {rest : List Char} (hstart : startsVariable c)
    (hkeyword : readKeyword? (c :: cs) = none)
    (hpath : variablePath 0 none (c :: cs) = .ok (path.toList, rest)) :
    ReadBy operandExpected c cs (.variable path) rest

/-- A token that is read comes from one of the readers. -/
theorem readBy_of_readToken {operandExpected : Bool} {c : Char} {cs rest : List Char}
    {kind : TokenKind} (h : readToken operandExpected c cs = .ok (kind, rest)) :
    ReadBy operandExpected c cs kind rest := by
  have hliteral : ∀ {r}, asLiteral r = .ok (kind, rest) →
      ∃ value, r = .ok (value, rest) ∧ kind = .literal value := by
    rintro (fault | ⟨value, rest'⟩) hr <;> cases hr
    exact ⟨value, rfl, rfl⟩
  unfold readToken at h
  split at h
  · rename_i hc
    cases h
    exact .leftParen hc
  split at h
  · rename_i hc
    cases h
    exact .rightParen hc
  split at h
  · rename_i op body hread
    split at h
    · rename_i hand
      obtain ⟨value, hvalue, rfl⟩ := hliteral h
      exact .regexp hand.1 (hand.2 ▸ hread) hvalue
    · rename_i hdivide
      split at h
      · rename_i hand
        cases h
        exact .negation hand.1 (hand.2 ▸ hread)
      · rename_i hminus
        cases h
        exact .operator hread fun hexpected =>
          ⟨fun hop => hminus ⟨hexpected, hop⟩, fun hop => hdivide ⟨hexpected, hop⟩⟩
  split at h
  · rename_i hdigit
    obtain ⟨value, hvalue, rfl⟩ := hliteral h
    exact .number hdigit hvalue
  split at h
  · rename_i hquote
    obtain ⟨value, hvalue, rfl⟩ := hliteral h
    exact .string hquote hvalue
  split at h
  · rename_i hread
    cases h
    exact .keyword hread
  · rename_i hkeyword
    split at h
    · rename_i hstart
      unfold readVariable at h
      split at h
      · rename_i path rest' hpath
        cases h
        exact .variable hstart hkeyword (by rw [String.toList_ofList, hpath])
      · cases h
    · cases h

theorem readToken_eq_variable {operandExpected : Bool} {c : Char} {tail rest : List Char}
    {path : String} (h : readToken operandExpected c tail = .ok (.variable path, rest)) :
    startsVariable c ∧ readKeyword? (c :: tail) = none ∧
      variablePath 0 none (c :: tail) = .ok (path.toList, rest) := by
  cases readBy_of_readToken h with
  | «variable» hstart hkeyword hpath => exact ⟨hstart, hkeyword, hpath⟩

/-- A variable at the head of a text is read from its path alone. -/
theorem lexesAs_of_readToken {operandExpected : Bool} {c : Char} {tail rest : List Char}
    {path : String} (h : readToken operandExpected c tail = .ok (.variable path, rest))
    (operandExpected' : Bool) : LexesAs operandExpected' path.toList (.variable path) := by
  obtain ⟨hstart, hkeyword, hpath⟩ := readToken_eq_variable h
  -- the path alone is no keyword either, for what ends a path ends a name as well
  have hrest := endsName_of_endsPath (endsPath_of_variablePath hpath)
  have happend := variablePath_append hpath
  obtain ⟨tail', hpath'⟩ := exists_eq_cons_of_variablePath hstart hpath
  refine ⟨c, tail', hpath', fun hsep =>
    not_isBound_of_startsVariable hstart (isBound_of_isSeparator hsep), fun behind hbehind => ?_⟩
  have hnone : readKeyword? path.toList = none := by
    rw [happend, readKeyword?_append_of_endsName hrest, Option.map_eq_none_iff] at hkeyword
    exact hkeyword
  rw [readToken_startsVariable hstart, ← List.cons_append, ← hpath',
    readKeyword?_append_of_endsName (endsName_of_separated hbehind), hnone, readVariable,
    variablePath_append_of_endsPath hpath (endsPath_of_separated hbehind)]
  simp only [Option.map_none, Option.getD_none, String.ofList_toList]

theorem lexesAs_variable {path : String} (operandExpected : Bool) (h : IsVariable path) :
    LexesAs operandExpected path.toList (.variable path) := by
  obtain ⟨text, offset, htokens⟩ := h
  rcases exists_readToken_of_tokensFrom htokens with
    ⟨_, hnil⟩ | ⟨c, tail, kind, rest, start, offset', tokens, _, hread, _, heq⟩
  · cases hnil
  · cases heq
    exact lexesAs_of_readToken hread operandExpected

/-- The writing of a readable token reads as that token. -/
theorem lexesAs_display {operandExpected : Bool} {kind : TokenKind}
    (h : kind.ReadableIn operandExpected) :
    LexesAs operandExpected kind.display.toList kind := by
  cases kind with
  | literal value =>
    obtain ⟨hliteral, hregexp⟩ := h
    cases value with
    | string s => exact lexesAs_string operandExpected s
    | number n =>
      obtain ⟨m, rfl⟩ := hliteral
      rw [TokenKind.display, Operand.display, String.toList_ofList]
      exact lexesAs_number operandExpected m
    | boolean b =>
      cases b with
      | true => exact lexesAs_keyword operandExpected List.mem_cons_self
      | false => exact lexesAs_keyword operandExpected (List.mem_cons_of_mem _ List.mem_cons_self)
    | null =>
      exact lexesAs_keyword operandExpected
        (List.mem_cons_of_mem _ (List.mem_cons_of_mem _ List.mem_cons_self))
    | undefined => cases hliteral
    | regexp r =>
      obtain ⟨cs, rest, hread⟩ := hliteral
      rw [hregexp r rfl]
      exact lexesAs_regexp (isWritable_of_readRegexp hread)
  | operator op => exact lexesAs_operator h
  | leftParen => exact ⟨'(', [], (rfl : "(".toList = ['(']), by decide, fun rest _ => rfl⟩
  | rightParen => exact ⟨')', [], (rfl : ")".toList = [')']), by decide, fun rest _ => rfl⟩
  | «variable» path => exact lexesAs_variable operandExpected h

end Lexer

end ScalarExpr

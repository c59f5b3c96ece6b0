import ScalarExpr.Error
import ScalarExpr.Text.Basic
import ScalarExpr.Text.Hexadecimal
import ScalarExpr.Token.Basic
/-!
# Reading tokens

A text is read from left to right. White space and commas separate tokens. What
a minus or a slash means depends on one thing: whether an operand is expected,
which is so at the start, after an operator and after an opening parenthesis.

## Main definitions

- `Lexer.readToken` — reads the token at the head of a text
- `Lexer.tokensFrom` — reads all tokens from a state
- `tokenize` — reads all tokens of a text

## Main statements

- `Lexer.readToken_suffix`: reading a token takes some text and leaves the rest as
  it stands

## Design notes

Every reader gets the text that is left and gives back what it leaves, so a
position in the text never has to be checked.
-/

namespace ScalarExpr

namespace Lexer

/-- A character that ends the name of a variable. -/
def isBound (c : Char) : Bool :=
  Text.isSeparator c || c = '[' || c = '(' || c = ')' || Operator.isStart c

/-- A character that a variable may start with. -/
def startsVariable (c : Char) : Bool := c.isAlpha || c = '$' || c = '@'

section

variable [Regex.Engine]

-- ════════════════════════════════════════════════════════════════════════
-- Numbers
-- ════════════════════════════════════════════════════════════════════════

/-- The run of characters that a number literal is taken from: digits, points,
    exponent marks, and a sign right after a mark. -/
def numberRun (afterMark : Bool) : List Char → List Char × List Char
  | [] => ([], [])
  | c :: cs =>
    if c.isDigit || c = '.' then
      let (run, rest) := numberRun false cs
      (c :: run, rest)
    else if c = 'e' || c = 'E' then
      let (run, rest) := numberRun true cs
      (c :: run, rest)
    else if afterMark && (c = '+' || c = '-') then
      let (run, rest) := numberRun false cs
      (c :: run, rest)
    else
      ([], c :: cs)

/-- The largest number of significant digits in a hexadecimal literal. -/
def maxHexDigits : Nat := 16

/-- A hexadecimal literal, its `0x` already taken. -/
def readHex (cs : List Char) : Except LexFault (Operand × List Char) :=
  let digits := cs.takeWhile Char.isAlphanum
  if digits = [] ∨ ¬ digits.all Text.isHexDigit then .error .invalidHexadecimal
  else if maxHexDigits < (digits.dropWhile (· = '0')).length then .error .hexadecimalTooLong
  else .ok (.ofInt (Text.hexValue digits), cs.dropWhile Char.isAlphanum)

/-- A number literal. -/
def readNumber : List Char → Except LexFault (Operand × List Char)
  | '0' :: 'x' :: cs | '0' :: 'X' :: cs => readHex cs
  | cs =>
    let (run, rest) := numberRun false cs
    match Numeral.read? run with
    | some n => .ok (.number n.toDouble, rest)
    | none => .error (.invalidNumber (String.ofList run))

-- ════════════════════════════════════════════════════════════════════════
-- Texts, regular expressions and keywords
-- ════════════════════════════════════════════════════════════════════════

/-- The body of a string literal up to its quote. A backslash before the quote
    or before a backslash is left out, any other one is kept. -/
def stringBody (quote : Char) : List Char → Option (List Char × List Char)
  | [] => none
  | ['\\'] => none
  | '\\' :: c :: cs =>
    if c = quote ∨ c = '\\' then
      (stringBody quote cs).map fun (body, rest) => (c :: body, rest)
    else
      (stringBody quote (c :: cs)).map fun (body, rest) => ('\\' :: body, rest)
  | c :: cs =>
    if c = quote then some ([], cs)
    else (stringBody quote cs).map fun (body, rest) => (c :: body, rest)

/-- A string literal, its opening quote already taken. -/
def readString (quote : Char) (cs : List Char) : Except LexFault (Operand × List Char) :=
  match stringBody quote cs with
  | some (body, rest) => .ok (.string (String.ofList body), rest)
  | none => .error .unexpectedEndOfString

/-- The source of a regexp literal up to its slash. A backslash before a slash is
    left out; any other one is kept with the character after it. -/
def regexpBody : List Char → Option (List Char × List Char)
  | [] => none
  | ['\\'] => none
  | '/' :: cs => some ([], cs)
  | '\\' :: '/' :: cs => (regexpBody cs).map fun (body, rest) => ('/' :: body, rest)
  | '\\' :: c :: cs => (regexpBody cs).map fun (body, rest) => ('\\' :: c :: body, rest)
  | c :: cs => (regexpBody cs).map fun (body, rest) => (c :: body, rest)

/-- The flags at the head of a text; a flag may be repeated. -/
def readFlags (flags : Regex.Flags) : List Char → Regex.Flags × List Char
  | [] => (flags, [])
  | c :: cs =>
    match flags.set? c with
    | some flags => readFlags flags cs
    | none => (flags, c :: cs)

/-- A regexp literal, its opening slash already taken. -/
def readRegexp (cs : List Char) : Except LexFault (Operand × List Char) :=
  match regexpBody cs with
  | none => .error .unexpectedEnd
  | some (body, rest) =>
    let (flags, rest) := readFlags .none rest
    match Regexp.ofSource? (String.ofList body) flags with
    | some r => .ok (.regexp r, rest)
    | none => .error .invalidRegexp

/-- The words that are literals. -/
def keywords : List (String × Operand) :=
  [("true", .boolean true), ("false", .boolean false), ("null", .null)]

/-- Nothing follows that would go on with a name. -/
def endsName : List Char → Bool
  | [] => true
  | c :: _ => isBound c

/-- A keyword, unless it is the start of a longer name. -/
def readKeyword? (cs : List Char) : Option (Operand × List Char) :=
  keywords.findSome? fun (word, value) =>
    match word.toList.isPrefixOf? cs with
    | some rest => if endsName rest then some (value, rest) else none
    | none => none

-- ════════════════════════════════════════════════════════════════════════
-- Variables
-- ════════════════════════════════════════════════════════════════════════

/-- Put a character before the path that was read behind it. -/
def withFirst (c : Char) :
    Except LexFault (List Char × List Char) → Except LexFault (List Char × List Char)
  | .ok (path, rest) => .ok (c :: path, rest)
  | .error fault => .error fault

/-- The path of a variable: a name, brackets that may be nested, a name again,
    and so on. `depth` counts the open brackets; `quote` is the quote that was
    opened within them, and a backslash takes along the character after it. -/
def variablePath (depth : Nat) (quote : Option Char) :
    List Char → Except LexFault (List Char × List Char)
  | [] =>
    match quote, depth with
    | some _, _ => .error .unexpectedEndOfString
    | none, 0 => .ok ([], [])
    | none, _ + 1 => .error .unexpectedEnd
  | c :: cs =>
    match quote, depth with
    | some q, depth =>
      if c = '\\' then
        match cs with
        | [] => .error .unexpectedEndOfString
        | d :: cs => withFirst c (withFirst d (variablePath depth (some q) cs))
      else
        withFirst c (variablePath depth (if c = q then none else some q) cs)
    | none, 0 =>
      if c = '[' then withFirst c (variablePath 1 none cs)
      else if isBound c then .ok ([], c :: cs)
      else withFirst c (variablePath 0 none cs)
    | none, depth + 1 =>
      let inside := if c = '[' then depth + 2 else if c = ']' then depth else depth + 1
      let opened := if c = '"' ∨ c = '\'' then some c else none
      withFirst c (variablePath inside opened cs)

/-- A variable, kept as it is written. -/
def readVariable (cs : List Char) : Except LexFault (TokenKind × List Char) :=
  match variablePath 0 none cs with
  | .ok (path, rest) => .ok (.variable (String.ofList path), rest)
  | .error fault => .error fault

-- ════════════════════════════════════════════════════════════════════════
-- Tokens
-- ════════════════════════════════════════════════════════════════════════

/-- An operand as a token. -/
def asLiteral : Except LexFault (Operand × List Char) → Except LexFault (TokenKind × List Char)
  | .ok (value, rest) => .ok (.literal value, rest)
  | .error fault => .error fault

/-- Read the token at the head of a text that does not start with a separator. -/
def readToken (operandExpected : Bool) (c : Char) (cs : List Char) :
    Except LexFault (TokenKind × List Char) :=
  if c = '(' then .ok (.leftParen, cs)
  else if c = ')' then .ok (.rightParen, cs)
  else
    match Operator.read? (c :: cs) with
    | some (op, rest) =>
      if operandExpected ∧ op = .arithmetic .divide then asLiteral (readRegexp rest)
      else if operandExpected ∧ op = .arithmetic .minus then .ok (.operator (.unary .minus), rest)
      else .ok (.operator op, rest)
    | none =>
      if c.isDigit then asLiteral (readNumber (c :: cs))
      else if c = '"' ∨ c = '\'' then asLiteral (readString c cs)
      else
        match readKeyword? (c :: cs) with
        | some (value, rest) => .ok (.literal value, rest)
        | none =>
          if startsVariable c then readVariable (c :: cs)
          else .error (if c.toNat < 0x80 then .unknownToken else .invalidCharacter)

end

-- ════════════════════════════════════════════════════════════════════════
-- Progress
-- ════════════════════════════════════════════════════════════════════════

theorem numberRun_suffix (afterMark : Bool) (cs : List Char) : (numberRun afterMark cs).2 <:+ cs := by
  induction cs generalizing afterMark with
  | nil => exact List.suffix_refl _
  | cons c cs ih =>
    unfold numberRun
    split
    · exact (ih false).trans (List.suffix_cons c cs)
    · split
      · exact (ih true).trans (List.suffix_cons c cs)
      · split
        · exact (ih false).trans (List.suffix_cons c cs)
        · exact List.suffix_refl _

theorem stringBody_suffix {quote : Char} {cs body rest : List Char}
    (h : stringBody quote cs = some (body, rest)) : rest <:+ cs := by
  fun_induction stringBody quote cs generalizing body with
  | case1 => exact nomatch h
  | case2 => exact nomatch h
  | case3 c cs hc ih =>
    obtain ⟨⟨body', rest'⟩, hb, he⟩ := Option.map_eq_some_iff.1 h
    cases he
    exact (ih hb).trans ((List.suffix_cons c cs).trans (List.suffix_cons _ _))
  | case4 c cs hc ih =>
    obtain ⟨⟨body', rest'⟩, hb, he⟩ := Option.map_eq_some_iff.1 h
    cases he
    exact (ih hb).trans (List.suffix_cons _ _)
  | case5 cs =>
    cases h
    exact List.suffix_cons _ _
  | case6 c cs _ _ hc ih =>
    obtain ⟨⟨body', rest'⟩, hb, he⟩ := Option.map_eq_some_iff.1 h
    cases he
    exact (ih hb).trans (List.suffix_cons c cs)

theorem regexpBody_suffix {cs body rest : List Char} (h : regexpBody cs = some (body, rest)) :
    rest <:+ cs := by
  fun_induction regexpBody cs generalizing body with
  | case1 => exact nomatch h
  | case2 => exact nomatch h
  | case3 cs =>
    cases h
    exact List.suffix_cons _ _
  | case4 cs ih =>
    obtain ⟨⟨body', rest'⟩, hb, he⟩ := Option.map_eq_some_iff.1 h
    cases he
    exact (ih hb).trans ((List.suffix_cons _ cs).trans (List.suffix_cons _ _))
  | case5 c cs _ ih =>
    obtain ⟨⟨body', rest'⟩, hb, he⟩ := Option.map_eq_some_iff.1 h
    cases he
    exact (ih hb).trans ((List.suffix_cons c cs).trans (List.suffix_cons _ _))
  | case6 c cs _ _ _ _ ih =>
    obtain ⟨⟨body', rest'⟩, hb, he⟩ := Option.map_eq_some_iff.1 h
    cases he
    exact (ih hb).trans (List.suffix_cons c cs)

theorem readFlags_suffix (flags : Regex.Flags) (cs : List Char) : (readFlags flags cs).2 <:+ cs := by
  fun_induction readFlags flags cs with
  | case1 => exact List.suffix_refl _
  | case2 _ c cs flags _ ih => exact ih.trans (List.suffix_cons c cs)
  | case3 => exact List.suffix_refl _

theorem withFirst_eq_ok {c : Char} {r : Except LexFault (List Char × List Char)}
    {path rest : List Char} :
    withFirst c r = .ok (path, rest) ↔ ∃ path', r = .ok (path', rest) ∧ path = c :: path' := by
  rcases r with fault | ⟨path', rest'⟩
  · simp [withFirst]
  · simp only [withFirst, Except.ok.injEq, Prod.mk.injEq]
    constructor
    · rintro ⟨rfl, rfl⟩
      exact ⟨path', ⟨rfl, rfl⟩, rfl⟩
    · rintro ⟨_, ⟨rfl, rfl⟩, rfl⟩
      exact ⟨rfl, rfl⟩

/-- A path and what follows it are the text they were read from. -/
theorem variablePath_append {depth : Nat} {quote : Option Char} {cs path rest : List Char}
    (h : variablePath depth quote cs = .ok (path, rest)) : cs = path ++ rest := by
  fun_induction variablePath depth quote cs generalizing path with
  | case1 | case3 | case4 => exact nomatch h
  | case2 | case8 =>
    cases h
    rfl
  | case5 depth q d cs ih =>
    obtain ⟨_, hd, rfl⟩ := withFirst_eq_ok.1 h
    obtain ⟨_, hp, rfl⟩ := withFirst_eq_ok.1 hd
    rw [ih hp]
    rfl
  | case6 _ _ _ _ _ ih | case7 _ ih | case9 _ _ _ _ ih =>
    obtain ⟨_, hp, rfl⟩ := withFirst_eq_ok.1 h
    rw [ih hp]
    rfl
  | case10 =>
    rename_i ih
    obtain ⟨_, hp, rfl⟩ := withFirst_eq_ok.1 h
    rw [ih hp]
    rfl

/-- No operator starts with a character that a variable may start with. -/
theorem not_isStart_of_startsVariable {c : Char} (h : startsVariable c) :
    ¬ Operator.isStart c := by
  have hall : Operator.readingTable.all fun entry =>
      entry.1.toList.head?.all fun c => !startsVariable c := by decide
  intro hs
  obtain ⟨entry, hmem, hhead⟩ := List.any_eq_true.1 hs
  have hentry := List.all_eq_true.1 hall entry hmem
  simp only [decide_eq_true_eq] at hhead
  simp [hhead, h] at hentry

theorem not_isBound_of_startsVariable {c : Char} (h : startsVariable c) : ¬ isBound c := by
  have hstart := not_isStart_of_startsVariable h
  intro hb
  simp only [isBound, Text.isSeparator, Text.isAsciiBlank, Bool.or_eq_true, decide_eq_true_eq,
    hstart, Bool.false_eq_true, or_false] at hb
  rcases hb with ((((((((rfl | rfl) | rfl) | rfl) | rfl) | rfl) | rfl) | rfl) | rfl) <;>
    exact absurd h (by decide)

variable [Regex.Engine]

theorem readHex_suffix {cs rest : List Char} {v : Operand} (h : readHex cs = .ok (v, rest)) :
    rest <:+ cs := by
  simp only [readHex] at h
  split at h
  · exact nomatch h
  · split at h
    · exact nomatch h
    · cases h
      exact List.dropWhile_suffix _

theorem readNumber_suffix {c : Char} {cs rest : List Char} {v : Operand} (hc : c.isDigit)
    (h : readNumber (c :: cs) = .ok (v, rest)) : rest <:+ cs := by
  unfold readNumber at h
  split at h
  · rename_i heq
    cases heq
    exact (readHex_suffix h).trans (List.suffix_cons _ _)
  · rename_i heq
    cases heq
    exact (readHex_suffix h).trans (List.suffix_cons _ _)
  · simp only [numberRun, hc, Bool.true_or, if_true] at h
    split at h
    · cases h
      exact numberRun_suffix false cs
    · exact nomatch h

theorem readRegexp_suffix {cs rest : List Char} {v : Operand} (h : readRegexp cs = .ok (v, rest)) :
    rest <:+ cs := by
  simp only [readRegexp] at h
  split at h
  · exact nomatch h
  · rename_i body rest' hb
    split at h
    · cases h
      exact (readFlags_suffix _ _).trans (regexpBody_suffix hb)
    · exact nomatch h

theorem readString_suffix {quote : Char} {cs rest : List Char} {v : Operand}
    (h : readString quote cs = .ok (v, rest)) : rest <:+ cs := by
  simp only [readString] at h
  split at h
  · rename_i hb
    cases h
    exact stringBody_suffix hb
  · exact nomatch h

theorem readKeyword?_suffix {c : Char} {cs rest : List Char} {v : Operand}
    (h : readKeyword? (c :: cs) = some (v, rest)) : rest <:+ cs := by
  obtain ⟨⟨word, value⟩, hmem, hw⟩ := List.exists_of_findSome?_eq_some h
  dsimp only at hw
  split at hw
  · rename_i rest' hp
    have happ := Text.eq_append_of_isPrefixOf? hp
    split at hw
    · cases hw
      simp only [keywords, List.mem_cons, Prod.mk.injEq, List.not_mem_nil, or_false] at hmem
      rcases hmem with ⟨rfl, _⟩ | ⟨rfl, _⟩ | ⟨rfl, _⟩ <;>
        exact ⟨_, (List.cons.inj happ).2.symm⟩
    · exact nomatch hw
  · exact nomatch hw

theorem readVariable_suffix {c : Char} {cs rest : List Char} {k : TokenKind}
    (hc : startsVariable c) (h : readVariable (c :: cs) = .ok (k, rest)) : rest <:+ cs := by
  have hbound := not_isBound_of_startsVariable hc
  have hbracket : c ≠ '[' := by
    rintro rfl
    exact absurd hc (by decide)
  simp only [readVariable, variablePath, hbracket, hbound, if_false] at h
  split at h
  · rename_i path rest' hp
    cases h
    obtain ⟨path', hp', rfl⟩ := withFirst_eq_ok.1 hp
    exact ⟨path', (variablePath_append hp').symm⟩
  · exact nomatch h

theorem asLiteral_eq_ok {r : Except LexFault (Operand × List Char)} {k : TokenKind}
    {rest : List Char} (h : asLiteral r = .ok (k, rest)) : ∃ v, r = .ok (v, rest) := by
  rcases r with fault | ⟨v, rest'⟩
  · exact nomatch h
  · cases h
    exact ⟨v, rfl⟩

/-- Reading a token takes its first character at least, and leaves an end of the
    text. -/
theorem readToken_suffix {operandExpected : Bool} {c : Char} {cs rest : List Char} {k : TokenKind}
    (h : readToken operandExpected c cs = .ok (k, rest)) : rest <:+ cs := by
  unfold readToken at h
  split at h
  · cases h
    exact List.suffix_refl _
  split at h
  · cases h
    exact List.suffix_refl _
  split at h
  · rename_i op rest' hop
    have hrest := Operator.read?_suffix hop
    split at h
    · obtain ⟨v, hv⟩ := asLiteral_eq_ok h
      exact (readRegexp_suffix hv).trans hrest
    · split at h <;>
      · cases h
        exact hrest
  split at h
  · rename_i hdigit
    obtain ⟨v, hv⟩ := asLiteral_eq_ok h
    exact readNumber_suffix hdigit hv
  split at h
  · obtain ⟨v, hv⟩ := asLiteral_eq_ok h
    exact readString_suffix hv
  split at h
  · rename_i hk
    cases h
    exact readKeyword?_suffix hk
  split at h
  · rename_i hstart
    exact readVariable_suffix hstart h
  · exact nomatch h

-- ════════════════════════════════════════════════════════════════════════
-- Whole texts
-- ════════════════════════════════════════════════════════════════════════

/-- Read all tokens of a text that starts at `offset`, an operand being expected
    there or not. -/
def tokensFrom (operandExpected : Bool) (offset : Nat) (cs : List Char) :
    Except Error (List Token) :=
  let start := offset + Text.byteLength (cs.takeWhile Text.isSeparator)
  match hcs : cs.dropWhile Text.isSeparator with
  | [] => .ok []
  | c :: tail =>
    match htoken : readToken operandExpected c tail with
    | .error fault => .error (.lex fault start (String.ofList (Text.word (c :: tail))))
    | .ok (kind, rest) =>
      have : rest.length < cs.length := by
        have hrest := (readToken_suffix htoken).length_le
        have hdrop := (List.dropWhile_suffix (l := cs) Text.isSeparator).length_le
        rw [hcs, List.length_cons] at hdrop
        omega
      let taken := Text.byteLength (c :: tail) - Text.byteLength rest
      match tokensFrom kind.expectsOperand (start + taken) rest with
      | .error e => .error e
      | .ok tokens => .ok (⟨kind, start⟩ :: tokens)
termination_by cs.length

end Lexer

/-- Read all tokens of a text. -/
def tokenize [Regex.Engine] (text : String) : Except Error (List Token) :=
  Lexer.tokensFrom true 0 text.toList

end ScalarExpr

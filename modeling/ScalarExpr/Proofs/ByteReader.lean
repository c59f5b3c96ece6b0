import ScalarExpr.Proofs.Lexing
import ScalarExpr.Proofs.Octets
/-!
# Reading tokens byte by byte

The readers run on the bytes of a text as well, each byte taken for an octet. They cut
pieces out of the octets, and a piece is made into a text once it is complete, by a
decoder that may refuse bytes or put other characters in their place.

## Main definitions

- `Lexer.Piece` — what is cut out for a token
- `Lexer.cut` — cuts the piece for the next token off
- `Lexer.readUnits`, `Lexer.tokensFromUnits` — reads a token, or all tokens, of characters
  or octets with a decoder for the texts
- `tokenizeBytes` — reads all tokens of bytes

## Main statements

- `Lexer.cut_suffix`: a cut leaves the rest as it stands
- `Lexer.readUnits_textOf`: the token at the head of a text is made of the piece that is
  cut off

## Design notes

A decoder gives no text for bytes that it refuses, and then there are no tokens either. So
what holds for every decoder tells which bytes are made into texts at all.
-/

namespace ScalarExpr

variable [Regex.Engine]

namespace Lexer

/-- What is cut out for a token: the token, where no text has to be made for it, or else the
    characters or octets of this text. -/
inductive Piece where
  | token (kind : TokenKind)
  | number (run : List Char)
  | string (body : List Char)
  | regexp (source : List Char) (flags : Regex.Flags)
  | variable (path : List Char)

-- ════════════════════════════════════════════════════════════════════════
-- Cutting
-- ════════════════════════════════════════════════════════════════════════

/-- The digits behind the mark of a hexadecimal literal. -/
def hexDigits? (cs : List Char) : Option (List Char) :=
  (['0', 'x'].isPrefixOf? cs).or (['0', 'X'].isPrefixOf? cs)

def cutNumber (cs : List Char) : Except LexFault (Piece × List Char) :=
  match hexDigits? cs with
  | some digits => (readHex digits).map fun (value, rest) => (.token (.literal value), rest)
  | none => .ok (.number (numberRun false cs).1, (numberRun false cs).2)

def cutString (quote : Char) (cs : List Char) : Except LexFault (Piece × List Char) :=
  match stringBody quote cs with
  | some (body, rest) => .ok (.string body, rest)
  | none => .error .unexpectedEndOfString

def cutRegexp (cs : List Char) : Except LexFault (Piece × List Char) :=
  match regexpBody cs with
  | some (source, rest) => .ok (.regexp source (readFlags .none rest).1, (readFlags .none rest).2)
  | none => .error .unexpectedEnd

def cutVariable (cs : List Char) : Except LexFault (Piece × List Char) :=
  (variablePath 0 none cs).map fun (path, rest) => (.variable path, rest)

/-- Cut off the piece for the token at the head of what does not start with a separator. -/
def cut (operandExpected : Bool) (c : Char) (cs : List Char) :
    Except LexFault (Piece × List Char) :=
  if c = '(' then .ok (.token .leftParen, cs)
  else if c = ')' then .ok (.token .rightParen, cs)
  else
    match Operator.read? (c :: cs) with
    | some (op, rest) =>
      if operandExpected ∧ op = .arithmetic .divide then cutRegexp rest
      else if operandExpected ∧ op = .arithmetic .minus then
        .ok (.token (.operator (.unary .minus)), rest)
      else .ok (.token (.operator op), rest)
    | none =>
      if c.isDigit then cutNumber (c :: cs)
      else if c = '"' ∨ c = '\'' then cutString c cs
      else
        match readKeyword? (c :: cs) with
        | some (value, rest) => .ok (.token (.literal value), rest)
        | none =>
          if startsVariable c then cutVariable (c :: cs)
          else .error (if c.toNat < 0x80 then .unknownToken else .invalidCharacter)

-- ════════════════════════════════════════════════════════════════════════
-- Making texts
-- ════════════════════════════════════════════════════════════════════════

/-- The token that a piece is made into, or its fault. -/
def Piece.kind? (decode : List Char → Option String) :
    Piece → Option (Except LexFault TokenKind)
  | token kind => some (.ok kind)
  | number run => (decode run).map fun text =>
    match Numeral.read? text.toList with
    | some n => .ok (.literal (.number n.toDouble))
    | none => .error (.invalidNumber text)
  | string body => (decode body).map fun text => .ok (.literal (.string text))
  | regexp source flags => (decode source).map fun text =>
    match Regexp.ofSource? text flags with
    | some r => .ok (.literal (.regexp r))
    | none => .error .invalidRegexp
  | «variable» path => (decode path).map fun text => .ok (.variable text)

/-- The token that is made of what is cut off, and what is left. -/
def made? (decode : List Char → Option String) :
    Except LexFault (Piece × List Char) → Option (Except LexFault (TokenKind × List Char))
  | .ok (piece, rest) => (piece.kind? decode).map fun made => made.map (·, rest)
  | .error fault => some (.error fault)

/-- Read the token at the head of what does not start with a separator. -/
def readUnits (decode : List Char → Option String) (operandExpected : Bool) (c : Char)
    (cs : List Char) : Option (Except LexFault (TokenKind × List Char)) :=
  made? decode (cut operandExpected c cs)

variable {operandExpected : Bool} {c : Char} {cs rest : List Char} {piece : Piece}
  {decode : List Char → Option String}

-- ════════════════════════════════════════════════════════════════════════
-- The pieces of a text
-- ════════════════════════════════════════════════════════════════════════

omit [Regex.Engine] in
theorem hexDigits?_eq_some {digits : List Char} (h : hexDigits? cs = some digits) :
    cs = '0' :: 'x' :: digits ∨ cs = '0' :: 'X' :: digits := by
  rcases Option.or_eq_some_iff.1 h with hmark | ⟨_, hmark⟩
  · exact .inl (Text.eq_append_of_isPrefixOf? hmark)
  · exact .inr (Text.eq_append_of_isPrefixOf? hmark)

theorem readNumber_of_hexDigits? {digits : List Char} (h : hexDigits? cs = some digits) :
    readNumber cs = readHex digits := by
  rcases hexDigits?_eq_some h with rfl | rfl <;> rfl

theorem readNumber_of_hexDigits?_eq_none (h : hexDigits? cs = none) :
    readNumber cs =
      match Numeral.read? (numberRun false cs).1 with
      | some n => .ok (.number n.toDouble, (numberRun false cs).2)
      | none => .error (.invalidNumber (String.ofList (numberRun false cs).1)) := by
  unfold readNumber
  split
  · cases h
  · cases h
  · rfl

/-- The text of characters. -/
def textOf (cs : List Char) : Option String := some (String.ofList cs)

theorem made?_cutNumber (cs : List Char) :
    made? textOf (cutNumber cs) = some (asLiteral (readNumber cs)) := by
  unfold cutNumber
  split
  · rename_i digits hdigits
    rw [readNumber_of_hexDigits? hdigits]
    cases readHex digits <;> rfl
  · rename_i hnone
    have hrun := String.toList_ofList (l := (numberRun false cs).1)
    simp only [readNumber_of_hexDigits?_eq_none hnone, made?, Piece.kind?, textOf, Option.map_some,
      hrun]
    cases Numeral.read? (numberRun false cs).1 <;> rfl

theorem made?_cutString (quote : Char) (cs : List Char) :
    made? textOf (cutString quote cs) = some (asLiteral (readString quote cs)) := by
  rw [cutString, readString]
  cases stringBody quote cs <;> rfl

theorem made?_cutRegexp (cs : List Char) :
    made? textOf (cutRegexp cs) = some (asLiteral (readRegexp cs)) := by
  unfold cutRegexp readRegexp
  cases regexpBody cs with
  | none => rfl
  | some read =>
    simp only [made?, Piece.kind?, textOf, Option.map_some]
    cases Regexp.ofSource? (String.ofList read.1) (readFlags .none read.2).1 <;> rfl

theorem made?_cutVariable (cs : List Char) :
    made? textOf (cutVariable cs) = some (readVariable cs) := by
  unfold cutVariable readVariable
  cases variablePath 0 none cs <;> rfl

/-- The token at the head of a text is made of the piece that is cut off. -/
theorem readUnits_textOf (operandExpected : Bool) (c : Char) (cs : List Char) :
    readUnits textOf operandExpected c cs = some (readToken operandExpected c cs) := by
  unfold readUnits cut readToken
  split
  · rfl
  split
  · rfl
  cases Operator.read? (c :: cs) with
  | some read =>
    obtain ⟨op, rest⟩ := read
    dsimp only
    split
    · exact made?_cutRegexp rest
    · split <;> rfl
  | none =>
    dsimp only
    split
    · exact made?_cutNumber (c :: cs)
    split
    · exact made?_cutString c cs
    cases readKeyword? (c :: cs) with
    | some read => rfl
    | none =>
      dsimp only
      split
      · exact made?_cutVariable (c :: cs)
      · rfl

-- ════════════════════════════════════════════════════════════════════════
-- Progress
-- ════════════════════════════════════════════════════════════════════════

theorem cutNumber_suffix (hc : c.isDigit) (h : cutNumber (c :: cs) = .ok (piece, rest)) :
    rest <:+ cs := by
  unfold cutNumber at h
  split at h
  · rename_i digits hdigits
    obtain ⟨read, hread, heq⟩ := map_eq_ok_iff.1 h
    cases heq
    rw [← readNumber_of_hexDigits? hdigits] at hread
    exact readNumber_suffix hc hread
  · simp only [numberRun, hc, Bool.true_or, if_true] at h
    cases h
    exact numberRun_suffix false cs

theorem cutVariable_suffix (hc : startsVariable c) (h : cutVariable (c :: cs) = .ok (piece, rest)) :
    rest <:+ cs := by
  obtain ⟨⟨path, rest'⟩, hpath, heq⟩ := map_eq_ok_iff.1 h
  cases heq
  obtain ⟨path', rfl⟩ := exists_eq_cons_of_variablePath hc hpath
  exact ⟨path', (List.cons.inj (variablePath_append hpath)).2.symm⟩

/-- A cut takes the first character or octet at least, and leaves an end of the others. -/
theorem cut_suffix (h : cut operandExpected c cs = .ok (piece, rest)) : rest <:+ cs := by
  unfold cut at h
  split at h
  · cases h
    exact List.suffix_refl _
  split at h
  · cases h
    exact List.suffix_refl _
  split at h
  · rename_i op rest' hop
    have hrest := Operator.read?_suffix hop
    split at h
    · unfold cutRegexp at h
      split at h
      · rename_i hbody
        cases h
        exact ((readFlags_suffix _ _).trans (regexpBody_suffix hbody)).trans hrest
      · cases h
    · split at h <;>
      · cases h
        exact hrest
  split at h
  · rename_i hdigit
    exact cutNumber_suffix hdigit h
  split at h
  · unfold cutString at h
    split at h
    · rename_i hbody
      cases h
      exact stringBody_suffix hbody
    · cases h
  split at h
  · rename_i hkeyword
    cases h
    exact readKeyword?_suffix hkeyword
  split at h
  · rename_i hstart
    exact cutVariable_suffix hstart h
  · cases h

theorem readUnits_suffix {kind : TokenKind}
    (h : readUnits decode operandExpected c cs = some (.ok (kind, rest))) : rest <:+ cs := by
  unfold readUnits at h
  cases hcut : cut operandExpected c cs with
  | error fault =>
    rw [hcut] at h
    cases h
  | ok read =>
    obtain ⟨piece, rest'⟩ := read
    rw [hcut] at h
    obtain ⟨made, _, hmade⟩ := Option.map_eq_some_iff.1 h
    obtain ⟨_, _, heq⟩ := map_eq_ok_iff.1 hmade
    cases heq
    exact cut_suffix hcut

-- ════════════════════════════════════════════════════════════════════════
-- All tokens
-- ════════════════════════════════════════════════════════════════════════

/-- Read all tokens of what starts at `offset`, an operand being expected there or not. -/
def tokensFromUnits (decode : List Char → Option String) (operandExpected : Bool) (offset : Nat)
    (cs : List Char) : Option (Except Error (List Token)) :=
  let start := offset + (cs.takeWhile Text.isSeparator).length
  match hcs : cs.dropWhile Text.isSeparator with
  | [] => some (.ok [])
  | c :: tail =>
    match hread : readUnits decode operandExpected c tail with
    | none => none
    | some (.error fault) =>
      (decode (Text.word (c :: tail))).map fun text => .error (.lex fault start text)
    | some (.ok (kind, rest)) =>
      have : rest.length < cs.length := by
        have hrest := (readUnits_suffix hread).length_le
        have hdrop := (List.dropWhile_suffix (l := cs) Text.isSeparator).length_le
        rw [hcs, List.length_cons] at hdrop
        omega
      let taken := (c :: tail).length - rest.length
      (tokensFromUnits decode kind.expectsOperand (start + taken) rest).map
        (Except.map (⟨kind, start⟩ :: ·))
termination_by cs.length

end Lexer

/-- Read all tokens of bytes, with a decoder for their texts. -/
def tokenizeBytes (decode : List UInt8 → Option String) (bytes : List UInt8) :
    Option (Except Error (List Token)) :=
  Lexer.tokensFromUnits (fun octets => decode (Text.unoctets octets)) true 0
    (bytes.map Char.ofUInt8)

end ScalarExpr

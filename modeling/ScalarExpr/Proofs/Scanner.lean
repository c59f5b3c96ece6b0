import ScalarExpr.Proofs.ByteReader
import ScalarExpr.Proofs.Positions
/-!
# Reading tokens with a cursor

The tokens of a text are read with a cursor that goes along its bytes. Some loops move the
cursor by two bytes at once and may leave it behind the end of the input. What is sliced has
to begin within the input and not behind its own end, a count of open brackets is lowered
only if it is not zero, and behind a token the cursor has to have moved forward and to stand
within the input. A scan that breaks any of this does not come to anything.

## Main definitions

- `Scanner.advanceWhile`, `Scanner.numberEnd`, `Scanner.stringFrom`, `Scanner.regexpFrom`,
  `Scanner.flagsFrom`, `Scanner.quotedEnd`, `Scanner.bracketsEnd?`, `Scanner.variableEnd?` —
  the loops
- `Scanner.cutAt?`, `Scanner.readAt?` — the piece, and the token, at the cursor
- `Scanner.nextToken?`, `Scanner.tokensAt?` — the next token, and all tokens

## Design notes

The input is a list of characters or octets, as it is for the readers that cut pieces off. A
loop that goes on behind another one makes sure that this one has moved the cursor, so that it
comes to an end.
-/

namespace ScalarExpr

namespace Scanner

open Lexer

-- ════════════════════════════════════════════════════════════════════════
-- Loops
-- ════════════════════════════════════════════════════════════════════════

/-- Move the cursor past what satisfies a condition. -/
def advanceWhile (input : List Char) (p : Char → Bool) (pos : Nat) : Nat :=
  match _h : input[pos]? with
  | some c => if p c then advanceWhile input p (pos + 1) else pos
  | none => pos
termination_by input.length - pos
decreasing_by
  have := lt_length_of_getElem? ‹_›
  omega

/-- Move the cursor past digits, points and exponent marks, each mark with its sign. -/
def numberEnd (input : List Char) (pos : Nat) : Nat :=
  match _h : input[pos]? with
  | some c =>
    if c.isDigit || c = '.' then numberEnd input (pos + 1)
    else if c = 'e' || c = 'E' then
      if input[pos + 1]? = some '+' ∨ input[pos + 1]? = some '-' then numberEnd input (pos + 2)
      else numberEnd input (pos + 1)
    else pos
  | none => pos
termination_by input.length - pos
decreasing_by all_goals
  have := lt_length_of_getElem? ‹_›
  omega

/-- The body of a string literal, its opening quote already passed. -/
def stringFrom (input : List Char) (quote : Char) (pos : Nat) :
    Except LexFault (List Char × Nat) :=
  match _h : input[pos]? with
  | none => .error .unexpectedEndOfString
  | some c =>
    if c = '\\' then
      match input[pos + 1]? with
      | none => .error .unexpectedEndOfString
      | some d =>
        if d = quote ∨ d = '\\' then (stringFrom input quote (pos + 2)).map (Prod.map (d :: ·) id)
        else (stringFrom input quote (pos + 1)).map (Prod.map ('\\' :: ·) id)
    else if c = quote then .ok ([], pos + 1)
    else (stringFrom input quote (pos + 1)).map (Prod.map (c :: ·) id)
termination_by input.length - pos
decreasing_by all_goals
  have := lt_length_of_getElem? ‹_›
  omega

/-- The source of a regexp literal, its opening slash already passed. -/
def regexpFrom (input : List Char) (pos : Nat) : Except LexFault (List Char × Nat) :=
  match _h : input[pos]? with
  | none => .error .unexpectedEnd
  | some c =>
    if c = '\\' then
      match input[pos + 1]? with
      | none => .error .unexpectedEnd
      | some d =>
        if d = '/' then (regexpFrom input (pos + 2)).map (Prod.map ('/' :: ·) id)
        else (regexpFrom input (pos + 2)).map (Prod.map ('\\' :: d :: ·) id)
    else if c = '/' then .ok ([], pos + 1)
    else (regexpFrom input (pos + 1)).map (Prod.map (c :: ·) id)
termination_by input.length - pos
decreasing_by all_goals
  have := lt_length_of_getElem? ‹_›
  omega

/-- The flags at the cursor, and where they end. -/
def flagsFrom (input : List Char) (flags : Regex.Flags) (pos : Nat) : Regex.Flags × Nat :=
  match _h : input[pos]? with
  | none => (flags, pos)
  | some c =>
    match flags.set? c with
    | some flags => flagsFrom input flags (pos + 1)
    | none => (flags, pos)
termination_by input.length - pos
decreasing_by
  have := lt_length_of_getElem? ‹_›
  omega

/-- Move the cursor past what is quoted within brackets. A backslash takes along what stands
    behind it, also where that is the end of the input. -/
def quotedEnd (input : List Char) (quote : Char) (pos : Nat) : Except LexFault Nat :=
  match _h : input[pos]? with
  | none => .error .unexpectedEndOfString
  | some c =>
    if c = '\\' then quotedEnd input quote (pos + 2)
    else if c = quote then .ok (pos + 1)
    else quotedEnd input quote (pos + 1)
termination_by input.length - pos
decreasing_by all_goals
  have := lt_length_of_getElem? ‹_›
  omega

/-- Move the cursor past brackets, `depth` of them being open. -/
def bracketsEnd? (input : List Char) (depth pos : Nat) : Option (Except LexFault Nat) :=
  match _h : input[pos]? with
  | none => some (.error .unexpectedEnd)
  | some c =>
    if c = '[' then bracketsEnd? input (depth + 1) (pos + 1)
    else if c = ']' then do
      let outside ← depth.ppred
      if outside = 0 then some (.ok (pos + 1)) else bracketsEnd? input outside (pos + 1)
    else if c = '"' ∨ c = '\'' then
      match quotedEnd input c (pos + 1) with
      | .error fault => some (.error fault)
      | .ok stop => if pos < stop then bracketsEnd? input depth stop else none
    else bracketsEnd? input depth (pos + 1)
termination_by input.length - pos
decreasing_by all_goals
  have := lt_length_of_getElem? ‹_›
  omega

theorem le_advanceWhile (input : List Char) (p : Char → Bool) (pos : Nat) :
    pos ≤ advanceWhile input p pos := by
  fun_induction advanceWhile input p pos with
  | case1 pos c _ _ ih => exact Nat.le_of_succ_le ih
  | case2 | case3 => exact Nat.le_refl _

/-- Move the cursor past a variable: names and brackets one after another. -/
def variableEnd? (input : List Char) (pos : Nat) : Option (Except LexFault Nat) :=
  let stop := advanceWhile input (fun c => !isBound c) pos
  if _h : input[stop]? = some '[' then
    match bracketsEnd? input 0 stop with
    | none => none
    | some (.error fault) => some (.error fault)
    | some (.ok behind) => if stop < behind then variableEnd? input behind else none
  else some (.ok stop)
termination_by input.length - pos
decreasing_by
  have := lt_length_of_getElem? ‹_›
  have := le_advanceWhile input (fun c => !isBound c) pos
  omega

variable [Regex.Engine]

-- ════════════════════════════════════════════════════════════════════════
-- Pieces
-- ════════════════════════════════════════════════════════════════════════

/-- The value of a hexadecimal digit. -/
def hexDigit? (c : Char) : Option Nat :=
  if c.isDigit then Nat.psub c.toNat '0'.toNat
  else if 'a' ≤ c && c ≤ 'f' then (Nat.psub c.toNat 'a'.toNat).map (· + 10)
  else (Nat.psub c.toNat 'A'.toNat).map (· + 10)

/-- A hexadecimal literal. Of its digits those are significant that begin with the first one
    that is not zero, or with the last one. -/
def hexAt? (input : List Char) (pos : Nat) : Option (Except LexFault (Piece × Nat)) := do
  let stop := advanceWhile input Char.isAlphanum (pos + 2)
  let digits ← slice? input (pos + 2) stop
  if digits = [] ∨ ¬ digits.all Text.isHexDigit then some (.error .invalidHexadecimal)
  else
    let first ← (digits.findIdx? (· ≠ '0')).or digits.length.ppred
    let significant ← slice? digits first digits.length
    if maxHexDigits < significant.length then some (.error .hexadecimalTooLong)
    else
      let value ← significant.foldlM (fun (n : Nat) c => (hexDigit? c).map (16 * n + ·)) 0
      some (.ok (.token (.literal (.ofInt value)), stop))

def numberAt? (input : List Char) (pos : Nat) : Option (Except LexFault (Piece × Nat)) := do
  let rest ← slice? input pos input.length
  if ['0', 'x'].isPrefixOf rest || ['0', 'X'].isPrefixOf rest then hexAt? input pos
  else
    let stop := numberEnd input pos
    let run ← slice? input pos (min stop input.length)
    some (.ok (.number run, stop))

def stringAt (input : List Char) (quote : Char) (pos : Nat) : Except LexFault (Piece × Nat) :=
  (stringFrom input quote (pos + 1)).map (Prod.map .string id)

def regexpAt (input : List Char) (pos : Nat) : Except LexFault (Piece × Nat) :=
  (regexpFrom input (pos + 1)).map fun (source, stop) =>
    (.regexp source (flagsFrom input .none stop).1, (flagsFrom input .none stop).2)

/-- A keyword, unless a name goes on behind it, and where it ends. -/
def keywordAt? (input : List Char) (pos : Nat) : Option (Option (Operand × Nat)) := do
  let rest ← slice? input pos input.length
  some <| (keywords.find? fun entry =>
    entry.1.toList.isPrefixOf rest && rest[entry.1.toList.length]?.all isBound).map fun entry =>
      (entry.2, pos + entry.1.toList.length)

def variableAt? (input : List Char) (pos : Nat) : Option (Except LexFault (Piece × Nat)) := do
  match ← variableEnd? input pos with
  | .error fault => some (.error fault)
  | .ok stop =>
    let path ← slice? input pos (min stop input.length)
    some (.ok (.variable path, stop))

/-- The piece for the token that begins with `c` at the cursor, and where it ends. -/
def cutAt? (input : List Char) (operandExpected : Bool) (c : Char) (pos : Nat) :
    Option (Except LexFault (Piece × Nat)) :=
  if c = '(' then some (.ok (.token .leftParen, pos + 1))
  else if c = ')' then some (.ok (.token .rightParen, pos + 1))
  else do
    let rest ← slice? input pos input.length
    match Operator.readingTable.find? fun entry => entry.1.toList.isPrefixOf rest with
    | some (spelling, op) =>
      if operandExpected ∧ op = .arithmetic .divide then some (regexpAt input pos)
      else if operandExpected ∧ op = .arithmetic .minus then
        some (.ok (.token (.operator (.unary .minus)), pos + spelling.toList.length))
      else some (.ok (.token (.operator op), pos + spelling.toList.length))
    | none =>
      if c.isDigit then numberAt? input pos
      else if c = '"' ∨ c = '\'' then some (stringAt input c pos)
      else
        match ← keywordAt? input pos with
        | some (value, stop) => some (.ok (.token (.literal value), stop))
        | none =>
          if startsVariable c then variableAt? input pos
          else some (.error (if c.toNat < 0x80 then .unknownToken else .invalidCharacter))

-- ════════════════════════════════════════════════════════════════════════
-- Tokens
-- ════════════════════════════════════════════════════════════════════════

variable (decode : List Char → String)

/-- The token that begins with `c` at the cursor, and where it ends. -/
def readAt? (input : List Char) (operandExpected : Bool) (c : Char) (pos : Nat) :
    Option (Except LexFault (TokenKind × Nat)) := do
  match ← cutAt? input operandExpected c pos with
  | .error fault => some (.error fault)
  | .ok (piece, stop) =>
    let made ← piece.kind? fun units => some (decode units)
    some (made.map (·, stop))

/-- What stands at a place, up to the next white space. -/
def lastWord? (input : List Char) (offset : Nat) : Option String := do
  let start := min offset input.length
  let rest ← slice? input start input.length
  let stop := ((rest.findIdx? Text.isAsciiBlank).map (start + ·)).getD input.length
  let word ← slice? input start stop
  some (decode word)

/-- The next token and where the cursor is behind it, unless there is no token left. -/
def nextToken? (input : List Char) (operandExpected : Bool) (pos : Nat) :
    Option (Except Error (Option (Token × Nat))) :=
  let start := advanceWhile input Text.isSeparator pos
  match input[start]? with
  | none => some (.ok none)
  | some c => do
    match ← readAt? decode input operandExpected c start with
    | .error fault =>
      let text ← lastWord? decode input start
      some (.error (.lex fault start text))
    | .ok (kind, stop) => some (.ok (some (⟨kind, start⟩, stop)))

/-- All tokens from the cursor on. -/
def tokensAt? (input : List Char) (operandExpected : Bool) (pos : Nat) :
    Option (Except Error (List Token)) :=
  match nextToken? decode input operandExpected pos with
  | none => none
  | some (.error e) => some (.error e)
  | some (.ok none) => some (.ok [])
  | some (.ok (some (t, stop))) =>
    if pos < stop ∧ stop ≤ input.length then
      (tokensAt? input t.kind.expectsOperand stop).map (Except.map (t :: ·))
    else none
termination_by input.length - pos

end Scanner

end ScalarExpr

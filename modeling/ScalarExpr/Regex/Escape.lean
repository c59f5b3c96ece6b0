import ScalarExpr.Regex.Pattern
import ScalarExpr.Text.Hexadecimal
/-!
# Escapes in patterns

What may follow a backslash: a punctuation character for itself, a letter for a
control character, a character by its code point, a set of characters, or an
assertion.

## Main definitions

- `Regex.Atom` — what an escape or a single character stands for
- `Regex.readEscape?` — reads an escape, the backslash already taken
- `Regex.readBoundary?` — reads the kind of a word boundary
- `Regex.codePoint?` — the character of a hexadecimal code point
-/

namespace ScalarExpr

namespace Regex

/-- The least part of a pattern. -/
inductive Atom where
  | literal (c : Char)
  | set (s : CharSet)
  | assertion (a : Assertion)

/-- The character whose code point a non-empty list of hexadecimal digits
    spells; surrogates and numbers past U+10FFFF are no code points. -/
def codePoint? (digits : List Char) : Option Char :=
  let n := Text.hexValue digits
  if digits ≠ [] ∧ digits.all Text.isHexDigit ∧ n.isValidChar then some (Char.ofNat n) else none

/-- A code point in braces, or in exactly `count` digits. -/
def readCodePoint? (count : Nat) : List Char → Option (Char × List Char)
  | '\x7b' :: cs =>
    match cs.dropWhile (· != '\x7d') with
    | [] => none
    | _ :: rest => (codePoint? (cs.takeWhile (· != '\x7d'))).map (·, rest)
  | cs =>
    if count ≤ cs.length then (codePoint? (cs.take count)).map (·, cs.drop count) else none

/-- Punctuation and ASCII controls stand for themselves; digits, letters and the
    angle brackets have escapes of their own or none. -/
def isPlainEscape (c : Char) : Bool :=
  c.toNat < 0x80 && !c.isAlphanum && c != '<' && c != '>'

/-- The boundary that a name in braces stands for. -/
def boundary? (name : List Char) : Option Assertion :=
  match String.ofList name with
  | "start" => some .wordStart
  | "end" => some .wordEnd
  | "start-half" => some .noWordBefore
  | "end-half" => some .noWordAfter
  | _ => none

/-- The boundary behind `\b`: a name in braces picks a kind, and braces that do
    not start with a letter or a hyphen are left as a repetition. -/
def readBoundary? : List Char → Option (Assertion × List Char)
  | '\x7b' :: c :: cs =>
    if c.isAlpha || c = '-' then
      let name := (c :: cs).takeWhile fun c => c.isAlpha || c = '-'
      match (c :: cs).drop name.length with
      | '\x7d' :: rest => (boundary? name).map (·, rest)
      | _ => none
    else
      some (.wordBoundary, '\x7b' :: c :: cs)
  | cs => some (.wordBoundary, cs)

/-- Read an escape whose backslash has been taken. -/
def readEscape? : List Char → Option (Atom × List Char)
  | [] => none
  | 'x' :: cs => (readCodePoint? 2 cs).map fun (c, rest) => (.literal c, rest)
  | 'u' :: cs => (readCodePoint? 4 cs).map fun (c, rest) => (.literal c, rest)
  | 'U' :: cs => (readCodePoint? 8 cs).map fun (c, rest) => (.literal c, rest)
  | 'd' :: cs => some (.set .digit, cs)
  | 'D' :: cs => some (.set CharSet.digit.compl, cs)
  | 's' :: cs => some (.set .space, cs)
  | 'S' :: cs => some (.set CharSet.space.compl, cs)
  | 'w' :: cs => some (.set .word, cs)
  | 'W' :: cs => some (.set CharSet.word.compl, cs)
  | 'A' :: cs => some (.assertion .textStart, cs)
  | 'z' :: cs => some (.assertion .textEnd, cs)
  | 'b' :: cs => (readBoundary? cs).map fun (boundary, rest) => (.assertion boundary, rest)
  | 'B' :: cs => some (.assertion .notWordBoundary, cs)
  | '<' :: cs => some (.assertion .wordStart, cs)
  | '>' :: cs => some (.assertion .wordEnd, cs)
  | 'a' :: cs => some (.literal '\x07', cs)
  | 'f' :: cs => some (.literal '\x0c', cs)
  | 'n' :: cs => some (.literal '\n', cs)
  | 'r' :: cs => some (.literal '\r', cs)
  | 't' :: cs => some (.literal '\t', cs)
  | 'v' :: cs => some (.literal '\x0b', cs)
  | c :: cs => if isPlainEscape c then some (.literal c, cs) else none

end Regex

end ScalarExpr

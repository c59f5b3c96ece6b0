import ScalarExpr.Unicode.Mark
import ScalarExpr.Unicode.Unprintable
/-!
# Texts shown in messages

A message shows a text in double quotes and a character in single quotes. The
quote in use and the backslash are escaped, and so is every character without a
picture of its own.

## Main definitions

- `Text.quoted` — a text as messages show it
- `Text.quotedChar` — a character as messages show it
-/

namespace ScalarExpr

namespace Text

/-- A character by its code point: a backslash, `u` and hexadecimal digits in
    braces. -/
def codePoint (c : Char) : List Char :=
  ['\\', 'u', '\x7b'] ++ Nat.toDigits 16 c.toNat ++ ['\x7d']

/-- A character within quotes of one kind. -/
def escaped (quote c : Char) : List Char :=
  if c = '\x00' then ['\\', '0']
  else if c = '\t' then ['\\', 't']
  else if c = '\r' then ['\\', 'r']
  else if c = '\n' then ['\\', 'n']
  else if c = quote ∨ c = '\\' then ['\\', c]
  else if Unicode.isUnprintable c then codePoint c
  else [c]

/-- A character right after the opening quote. One that would join the quote is
    shown by its code point. -/
def escapedFirst (quote c : Char) : List Char :=
  if Unicode.isExtender c then codePoint c else escaped quote c

/-- A text in double quotes. -/
def quoted (s : String) : String :=
  match s.toList with
  | [] => "\"\""
  | c :: cs => String.ofList ('"' :: escapedFirst '"' c ++ cs.flatMap (escaped '"') ++ ['"'])

/-- A character in single quotes. -/
def quotedChar (c : Char) : String :=
  String.ofList ('\'' :: escapedFirst '\'' c ++ ['\''])

end Text

end ScalarExpr

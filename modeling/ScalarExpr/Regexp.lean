import ScalarExpr.Regex.Engine
import ScalarExpr.Regex.Flags
/-!
# Regular expressions as values

A regular expression is a source and flags that together make a pattern. What patterns there
are, and where they match, is up to the engine.

## Main definitions

- `Regex.patternOf` — the pattern that a source and flags make
- `Regexp` — a source, its flags, and the proof that they are accepted
- `Regexp.ofSource?` — the value for a source, unless it is refused
- `Regexp.isMatch` — whether the pattern matches somewhere in a text
- `Regexp.display` — the literal `/source/flags`, with every slash escaped

## Main statements

- `Regexp.ofSource?_eq_some_iff`: a value is made from its own source and flags
-/

namespace ScalarExpr

/-- The pattern that a source and flags make: the source, the flags switched on before it if
    there are any. -/
def Regex.patternOf (source : String) (flags : Regex.Flags) : String :=
  if flags = .none then source else "(?" ++ String.ofList flags.letters ++ ")" ++ source

variable [Regex.Engine]

/-- A source that is accepted under its flags. -/
structure Regexp where
  source : String
  flags : Regex.Flags
  accepted : Regex.Engine.accepts (Regex.patternOf source flags)
deriving DecidableEq

namespace Regexp

/-- The regular expression of a source; `none` if the source is refused. -/
def ofSource? (source : String) (flags : Regex.Flags) : Option Regexp :=
  if h : Regex.Engine.accepts (Regex.patternOf source flags) then some ⟨source, flags, h⟩
  else none

/-- Whether the pattern matches somewhere in a text. -/
def isMatch (r : Regexp) (text : String) : Bool :=
  Regex.Engine.isMatch (Regex.patternOf r.source r.flags) text

/-- A source within slashes: each slash of its own is escaped. -/
def escapeSlashes (source : List Char) : List Char :=
  source.flatMap fun c => if c = '/' then ['\\', '/'] else [c]

/-- The literal that shows a regular expression. -/
def display (r : Regexp) : String :=
  String.ofList ('/' :: escapeSlashes r.source.toList ++ '/' :: r.flags.letters)

theorem ofSource?_eq_some_iff {source : String} {flags : Regex.Flags} {r : Regexp} :
    ofSource? source flags = some r ↔ r.source = source ∧ r.flags = flags := by
  obtain ⟨source', flags', accepted⟩ := r
  unfold ofSource?
  constructor
  · intro h
    split at h
    · cases h
      exact ⟨rfl, rfl⟩
    · exact nomatch h
  · rintro ⟨rfl, rfl⟩
    rw [dif_pos accepted]

end Regexp

end ScalarExpr

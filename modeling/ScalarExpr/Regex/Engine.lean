/-!
# Engines of regular expressions

Regular expressions are compiled and matched by an engine, which is no part of this
development. Two things are asked of it: whether a pattern can be compiled, and whether it
matches somewhere in a text. The answers depend on nothing but what is asked.

## Main definitions

- `Regex.Engine` — an engine

## Design notes

The engine is inferred: definitions and theorems take any engine without naming it. One that
runs is `Regex.dialect`.
-/

namespace ScalarExpr

namespace Regex

/-- An engine of regular expressions. -/
class Engine where
  /-- Whether a pattern can be compiled. -/
  accepts (pattern : String) : Bool
  /-- Whether a pattern matches somewhere in a text. -/
  isMatch (pattern text : String) : Bool

end Regex

end ScalarExpr

import ScalarExpr.Regex.Engine
import ScalarExpr.Regex.Matching
import ScalarExpr.Regex.Parser
/-!
# An engine that runs

The engine that programs run with here. It reads a dialect of patterns: literals, `.`, `^`, `$`,
escapes, classes, groups, alternatives, repetitions, and the flags `i`, `m`, `s` and `U`. It
refuses what is not in the dialect, so that it stands for a larger engine only where nothing
else occurs, such as classes of Unicode properties or the flags `x`, `u` and `R`.

## Main definitions

- `Regex.dialect` — the engine
-/

namespace ScalarExpr

namespace Regex

/-- An engine for the dialect that `Pattern.read?` reads. -/
instance dialect : Engine where
  accepts pattern := (Pattern.read? pattern.toList).isSome
  isMatch pattern text := (Pattern.parse? pattern.toList).any (·.occursIn text.toList)

end Regex

end ScalarExpr

import ScalarExpr.Unicode.Alphabetic
import ScalarExpr.Unicode.Mark
import ScalarExpr.Unicode.Number
/-!
# Word characters

The characters that words are made of: alphabetic characters, marks, decimal
digits, connecting punctuation such as the underscore, and the two controls
that join letters.
-/

namespace ScalarExpr

namespace Unicode

/-- The ranges of category Pc, connecting punctuation. -/
def connectorRanges : Ranges :=
  [⟨0x5F, 0x5F⟩, ⟨0x203F, 0x2040⟩, ⟨0x2054, 0x2054⟩, ⟨0xFE33, 0xFE34⟩, ⟨0xFE4D, 0xFE4F⟩,
   ⟨0xFF3F, 0xFF3F⟩]

/-- The range of Join_Control. -/
def joinerRanges : Ranges := [⟨0x200C, 0x200D⟩]

/-- The ranges of all word characters, property by property. -/
def wordRanges : Ranges :=
  alphabeticRanges ++ markRanges ++ decimalDigitRanges ++ connectorRanges ++ joinerRanges

end Unicode

end ScalarExpr

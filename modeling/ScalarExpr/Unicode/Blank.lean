import ScalarExpr.Unicode.Ranges
/-!
# White space

The characters with the property White_Space: 25 code points in 10 ranges.
-/

namespace ScalarExpr

namespace Unicode

/-- The ranges of White_Space. -/
def blankRanges : Ranges :=
  [⟨0x9, 0xD⟩, ⟨0x20, 0x20⟩, ⟨0x85, 0x85⟩, ⟨0xA0, 0xA0⟩, ⟨0x1680, 0x1680⟩, ⟨0x2000, 0x200A⟩,
   ⟨0x2028, 0x2029⟩, ⟨0x202F, 0x202F⟩, ⟨0x205F, 0x205F⟩, ⟨0x3000, 0x3000⟩]

/-- A character of white space, in any script. -/
def isBlank (c : Char) : Bool := blankRanges.contains c

/-- The characters of ASCII that are seen are no white space. -/
theorem not_isBlank_of_visible {c : Char} (hfirst : '!'.toNat ≤ c.toNat)
    (hlast : c.toNat ≤ '~'.toNat) : ¬ isBlank c := by
  have hfirst : 33 ≤ c.toNat := hfirst
  have hlast : c.toNat ≤ 126 := hlast
  simp only [isBlank, blankRanges, Ranges.contains, CodeRange.contains, List.any_cons,
    List.any_nil, Bool.or_eq_true, Bool.and_eq_true, decide_eq_true_eq, Bool.false_eq_true,
    or_false]
  omega

end Unicode

end ScalarExpr

/-!
# Flags of a regular expression

## Main definitions

- `Regex.Flags` — the four switches
- `Regex.Flags.set?` — switches on the flag that a letter names
- `Regex.Flags.letters` — the letters of the flags that are on
-/

namespace ScalarExpr

namespace Regex

/-- How a pattern is read: letters of either case, `^` and `$` at lines, `.`
    for line feeds too, and short repetitions first. -/
structure Flags where
  ignoreCase : Bool := false
  multiLine : Bool := false
  dotAll : Bool := false
  ungreedy : Bool := false
deriving DecidableEq

namespace Flags

/-- No flag is on. -/
def none : Flags := {}

/-- The flag that a letter names, switched on or off. -/
def switch? (flags : Flags) (on : Bool) : Char → Option Flags
  | 'i' => some { flags with ignoreCase := on }
  | 'm' => some { flags with multiLine := on }
  | 's' => some { flags with dotAll := on }
  | 'U' => some { flags with ungreedy := on }
  | _ => Option.none

/-- The flag that a letter names, switched on. -/
def set? (flags : Flags) (letter : Char) : Option Flags := flags.switch? true letter

/-- The letters of the flags that are on, in the order `imsU`. -/
def letters (flags : Flags) : List Char :=
  (if flags.ignoreCase then ['i'] else []) ++ (if flags.multiLine then ['m'] else []) ++
    (if flags.dotAll then ['s'] else []) ++ (if flags.ungreedy then ['U'] else [])

end Flags

end Regex

end ScalarExpr

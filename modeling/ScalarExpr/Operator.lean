import ScalarExpr.Text.Basic
/-!
# Operators

Operators come in families by what they do to their operands. Each has a
spelling, a precedence, a number of operands and a side on which operators of
its precedence group.

## Main definitions

- `Operator` — the operators, by family
- `Operator.spelling`, `Operator.precedence`, `Operator.arity`,
  `Operator.associativity`
- `Operator.readingTable` — all spellings, in the order in which they are tried

## Design notes

Unary minus is an operator of its own with the spelling of subtraction; which of
the two a minus is depends on what stands before it. An expression therefore
never holds an operator whose number of operands is open.
-/

namespace ScalarExpr

/-- The operators that may leave their right operand alone. -/
inductive LogicalOperator where
  | or
  | and
deriving DecidableEq

/-- The operators on words of 64 bits. -/
inductive BitwiseOperator where
  | or
  | xor
  | and
  | shiftRight
  | shiftLeft
deriving DecidableEq

/-- The operators that compare or match. -/
inductive ComparisonOperator where
  | equal
  | strictEqual
  | notEqual
  | strictNotEqual
  | greaterOrEqual
  | greater
  | lessOrEqual
  | less
  | regexMatch
  | notRegexMatch
deriving DecidableEq

/-- The operators on numbers. -/
inductive ArithmeticOperator where
  | plus
  | minus
  | multiply
  | divide
  | remainder
  | power
deriving DecidableEq

/-- The operators with one operand. -/
inductive UnaryOperator where
  | not
  | bitNot
  | minus
deriving DecidableEq

/-- An operator. -/
inductive Operator where
  | logical (op : LogicalOperator)
  | bitwise (op : BitwiseOperator)
  | comparison (op : ComparisonOperator)
  | arithmetic (op : ArithmeticOperator)
  | unary (op : UnaryOperator)
deriving DecidableEq

/-- The side on which operators of one precedence group. -/
inductive Associativity where
  | left
  | right
deriving DecidableEq

namespace Operator

/-- How an operator is written. -/
def spelling : Operator → String
  | logical .or => "||"
  | logical .and => "&&"
  | bitwise .or => "|"
  | bitwise .xor => "^"
  | bitwise .and => "&"
  | bitwise .shiftRight => ">>"
  | bitwise .shiftLeft => "<<"
  | comparison .equal => "=="
  | comparison .strictEqual => "==="
  | comparison .notEqual => "!="
  | comparison .strictNotEqual => "!=="
  | comparison .greaterOrEqual => ">="
  | comparison .greater => ">"
  | comparison .lessOrEqual => "<="
  | comparison .less => "<"
  | comparison .regexMatch => "=~"
  | comparison .notRegexMatch => "!=~"
  | arithmetic .plus => "+"
  | arithmetic .minus => "-"
  | arithmetic .multiply => "*"
  | arithmetic .divide => "/"
  | arithmetic .remainder => "%"
  | arithmetic .power => "**"
  | unary .not => "!"
  | unary .bitNot => "~"
  | unary .minus => "-"

/-- Operators of higher precedence bind their operands first. -/
def precedence : Operator → Nat
  | logical .or => 1
  | logical .and => 2
  | bitwise .or => 3
  | bitwise .xor => 4
  | bitwise .and => 5
  | comparison .equal | comparison .strictEqual => 6
  | comparison .notEqual | comparison .strictNotEqual => 6
  | comparison _ => 7
  | bitwise .shiftRight | bitwise .shiftLeft => 8
  | arithmetic .plus | arithmetic .minus => 9
  | arithmetic .multiply | arithmetic .divide | arithmetic .remainder => 10
  | arithmetic .power => 11
  | unary _ => 12

/-- Powers group on the right, all else on the left. -/
def associativity : Operator → Associativity
  | arithmetic .power => .right
  | _ => .left

/-- The number of operands. -/
def arity : Operator → Nat
  | unary _ => 1
  | _ => 2

/-- The spellings that are read, with what they stand for. A spelling comes
    before those it starts with, so that the first match is the longest. A minus
    is read as subtraction here, and a match is also denied by `!~`. -/
def readingTable : List (String × Operator) :=
  [("||", logical .or), ("&&", logical .and), ("|", bitwise .or), ("&", bitwise .and),
   ("^", bitwise .xor), ("!=~", comparison .notRegexMatch), ("!~", comparison .notRegexMatch),
   ("===", comparison .strictEqual), ("==", comparison .equal),
   ("!==", comparison .strictNotEqual), ("!=", comparison .notEqual),
   (">>", bitwise .shiftRight), ("<<", bitwise .shiftLeft), (">=", comparison .greaterOrEqual),
   (">", comparison .greater), ("<=", comparison .lessOrEqual), ("<", comparison .less),
   ("=~", comparison .regexMatch), ("**", arithmetic .power), ("+", arithmetic .plus),
   ("-", arithmetic .minus), ("*", arithmetic .multiply), ("/", arithmetic .divide),
   ("%", arithmetic .remainder), ("!", unary .not), ("~", unary .bitNot)]

/-- The operator that a text starts with, and what follows it. -/
def read? (cs : List Char) : Option (Operator × List Char) :=
  readingTable.findSome? fun (spelling, op) => (spelling.toList.isPrefixOf? cs).map (op, ·)

/-- A character that some spelling starts with. -/
def isStart (c : Char) : Bool := readingTable.any fun (spelling, _) => spelling.toList.head? = some c

/-- Reading an operator takes its first character at least. -/
theorem read?_suffix {c : Char} {cs rest : List Char} {op : Operator}
    (h : read? (c :: cs) = some (op, rest)) : rest <:+ cs := by
  have hall : readingTable.all fun entry => entry.1.toList.length > 0 := by decide
  obtain ⟨⟨spelling, op'⟩, hmem, hs⟩ := List.exists_of_findSome?_eq_some h
  obtain ⟨rest', hp, he⟩ := Option.map_eq_some_iff.1 hs
  cases he
  have hlength := List.all_eq_true.1 hall _ hmem
  have happ := Text.eq_append_of_isPrefixOf? hp
  cases hsp : spelling.toList with
  | nil => simp [hsp] at hlength
  | cons d ds =>
    rw [hsp, List.cons_append] at happ
    exact ⟨ds, (List.cons.inj happ).2.symm⟩

end Operator

end ScalarExpr

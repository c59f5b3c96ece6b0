import ScalarExpr.Decimal.Shortest
import ScalarExpr.Double.Power
import ScalarExpr.Regex.Dialect
import ScalarExpr.Regex.Flags
import ScalarExpr.Regex.Parser
import ScalarExpr.Regex.Pattern
import ScalarExpr.Evaluation.Basic
import ScalarExpr.Expression
import ScalarExpr.Operand.Coercion
import ScalarExpr.Scope
import ScalarExpr.Text.Basic
import ScalarExpr.Text.Hexadecimal
import ScalarExpr.Text.Quoted
import ScalarExpr.Operation.Basic
import ScalarExpr.Token.PrefixOrder
import ScalarExpr.Unicode.Alphabetic
import ScalarExpr.Unicode.Blank
import ScalarExpr.Unicode.CaseFolding
import ScalarExpr.Unicode.Mark
import ScalarExpr.Unicode.Number
import ScalarExpr.Unicode.Unprintable
import ScalarExpr.Unicode.Word
import ScalarExpr.Proofs.Placing
import ScalarExpr.Proofs.Precedence
import ScalarExpr.Proofs.Sentences
import ScalarExpr.Proofs.Reduction
import ScalarExpr.Proofs.Nesting
import ScalarExpr.Proofs.Operands
import ScalarExpr.Proofs.Lookups
import ScalarExpr.Proofs.DecimalText
import ScalarExpr.Proofs.Lexemes
import ScalarExpr.Proofs.Lexing
import ScalarExpr.Proofs.Meaning
import ScalarExpr.Proofs.Canonical
import ScalarExpr.Proofs.Addresses
import ScalarExpr.Proofs.Names
import ScalarExpr.Proofs.RegexpLiterals
import ScalarExpr.Proofs.Locality
import ScalarExpr.Proofs.Tiling
import ScalarExpr.Proofs.Changes
import ScalarExpr.Proofs.Separators
import ScalarExpr.Proofs.Skipping
import ScalarExpr.Proofs.Conservation
import ScalarExpr.Proofs.Numerals
import ScalarExpr.Proofs.NumberLiterals
import ScalarExpr.Proofs.NumberTexts
import ScalarExpr.Proofs.ArrayKeys
import ScalarExpr.Proofs.PathGrammar
import ScalarExpr.Proofs.Faults
import ScalarExpr.Proofs.StringLiterals
import ScalarExpr.Proofs.ByteReading
import ScalarExpr.Proofs.Comparisons
import ScalarExpr.Proofs.Trichotomy
import ScalarExpr.Proofs.Shifts
import ScalarExpr.Proofs.BindableNames
import ScalarExpr.Proofs.EvaluatorCursor
import ScalarExpr.Proofs.PathCursor
import ScalarExpr.Proofs.Scanning
import ScalarExpr.Proofs.Cursors
import ScalarExpr.Proofs.ExpressionDisplay

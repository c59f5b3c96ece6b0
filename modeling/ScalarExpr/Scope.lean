import ScalarExpr.Document.Path
import ScalarExpr.Evaluation.Basic
/-!
# Scopes

A scope gives variables their values: paths from `$` or `@` lead into its
document, any other name is looked up among its bindings.

## Main definitions

- `Scope` — a document and bindings
- `Scope.get?`, `Scope.has`, `Scope.set`, `Scope.del`, `Scope.setDocument`
- `Scope.isBindingName` — the names that can be bound
- `Scope.resolve` — the value of a variable
-/

namespace ScalarExpr

variable [Regex.Engine]

/-- A document and named operands. -/
structure Scope where
  document : Document := .null
  bindings : List (String × Operand) := []

namespace Scope

/-- A name can be bound if it starts with an ASCII letter, has no bracket, and is
    read as one variable, from its first character to its last. -/
def isBindingName (name : String) : Bool :=
  (name.toList.head?.any Char.isAlpha) && !name.toList.contains '[' &&
    match tokenize name with
    | .ok [t] => t.kind = .variable name
    | _ => false

/-- The operand bound to a name. -/
def get? (scope : Scope) (name : String) : Option Operand := scope.bindings.lookup name

def has (scope : Scope) (name : String) : Bool := (scope.get? name).isSome

/-- The scope without a binding of the name. -/
def del (scope : Scope) (name : String) : Scope :=
  { scope with bindings := scope.bindings.filter (·.1 ≠ name) }

/-- The scope in which the name is bound to the operand. -/
def set (scope : Scope) (name : String) (value : Operand) : Except Error Scope :=
  if isBindingName name then
    .ok { scope with bindings := (name, value) :: (scope.del name).bindings }
  else
    .error (.resolver ("invalid variable name: " ++ Text.quoted name))

/-- The scope with another document and the same bindings. -/
def setDocument (scope : Scope) (document : Document) : Scope := { scope with document }

/-- The value of a variable. -/
def resolve (scope : Scope) : Resolver := fun path =>
  match path.toList with
  | '$' :: _ | '@' :: _ =>
    match Path.parse path with
    | .ok segments => .ok (scope.document.walk segments)
    | .error e => .error (.resolver e.message)
  | _ =>
    match scope.get? path with
    | some value => .ok value
    | none => .error (.variableNotFound path)

end Scope

end ScalarExpr

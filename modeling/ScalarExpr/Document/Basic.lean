import ScalarExpr.Decimal.Numeral
import ScalarExpr.Operand.Basic
/-!
# Documents

The environment of an expression is a document: null, truth values, numbers,
texts, arrays and objects.

## Main definitions

- `Document` — a document
- `Document.Members` — the members of an object, whose names differ
- `DocumentNumber` — a number in a document, whole numbers of 64 bits exactly
- `Document.ofMembers` — an object, of members with one name the last counts
- `Document.toOperand` — the operand that a document stands for

## Main statements

- `Document.Members.lookup_eq_some_iff`: a name finds the member that it names
- `Document.Members.lookup_ofList`: of members with one name the last counts
-/

namespace ScalarExpr

/-- A number in a document. A whole number that fits 64 bits, with a sign or
    without, is kept exactly. -/
inductive DocumentNumber where
  | integer (n : Int)
  | double (x : Double)
deriving DecidableEq

mutual

/-- A document. -/
inductive Document where
  | null
  | boolean (b : Bool)
  | number (n : DocumentNumber)
  | string (s : String)
  | array (items : List Document)
  | object {names : List String} (members : Document.Members names)

/-- The members of an object, with these names: no name stands twice. -/
inductive Document.Members : List String → Type where
  | nil : Document.Members []
  | cons {names : List String} (name : String) (value : Document) (fresh : name ∉ names)
    (others : Document.Members names) : Document.Members (name :: names)

end

instance : Inhabited Document := ⟨.null⟩

namespace DocumentNumber

/-- The number that a numeral stands for. One with a point or an exponent, minus
    zero, and what does not fit 64 bits are the nearest double. -/
def ofNumeral (n : Numeral) (isWhole : Bool) : DocumentNumber :=
  let size : Int := Nat.ofDigitChars 10 n.whole 0
  if isWhole ∧ ¬ n.negative ∧ size < UInt64.size then .integer size
  else if isWhole ∧ n.negative ∧ 0 < size ∧ Int64.minValue.toInt ≤ -size then .integer (-size)
  else .double n.toDouble

def toDouble : DocumentNumber → Double
  | integer n => .ofInt n
  | double x => x

end DocumentNumber

namespace Document

namespace Members

variable {names : List String}

/-- What a function makes of each member. -/
def map {α : Type} (f : String × Document → α) : {names : List String} → Members names → List α
  | _, nil => []
  | _, cons name value _ others => f (name, value) :: others.map f

/-- The members with their names. -/
def toList (members : Members names) : List (String × Document) := members.map id

/-- The member that a name finds. -/
def lookup (name : String) : {names : List String} → Members names → Option Document
  | _, nil => none
  | _, cons first value _ others => if name = first then some value else others.lookup name

/-- Some members, of those with one name the last. -/
def ofList : List (String × Document) → (names : List String) × Members names
  | [] => ⟨[], nil⟩
  | (name, value) :: rest =>
    let others := ofList rest
    if fresh : name ∉ others.1 then ⟨name :: others.1, cons name value fresh others.2⟩ else others

/-- Members are gone through one by one. -/
@[elab_as_elim, induction_eliminator]
theorem induction {motive : (names : List String) → Members names → Prop} (nil : motive [] nil)
    (cons : ∀ {names : List String} (name : String) (value : Document) (fresh : name ∉ names)
      (others : Members names), motive names others →
        motive (name :: names) (cons name value fresh others)) :
    {names : List String} → (members : Members names) → motive names members
  | _, .nil => nil
  | _, .cons name value fresh others => cons name value fresh others (induction nil cons others)

variable {members : Members names} {name : String} {d : Document}

theorem mem_names_of_mem (h : (name, d) ∈ members.toList) : name ∈ names := by
  induction members with
  | nil => cases h
  | cons first value fresh others ih =>
    rcases List.mem_cons.1 h with heq | hmem
    · cases heq
      exact List.mem_cons_self
    · exact List.mem_cons_of_mem first (ih hmem)

/-- A name finds the member that it names, and nothing if it names none. -/
theorem lookup_eq_some_iff : members.lookup name = some d ↔ (name, d) ∈ members.toList := by
  induction members with
  | nil => exact ⟨nofun, nofun⟩
  | cons first value fresh others ih =>
    rw [toList, map, List.mem_cons, lookup]
    by_cases hfirst : name = first
    · subst hfirst
      rw [if_pos rfl, Option.some.injEq]
      refine ⟨fun heq => .inl (heq ▸ rfl), ?_⟩
      rintro (heq | hmem)
      · exact (Prod.mk.inj heq).2.symm
      · exact absurd (mem_names_of_mem hmem) fresh
    · rw [if_neg hfirst, ih]
      refine ⟨.inr, ?_⟩
      rintro (heq | hmem)
      · exact absurd (Prod.mk.inj heq).1 hfirst
      · exact hmem

/-- A name finds a member exactly if it is one of the names. -/
theorem isSome_lookup_iff : (members.lookup name).isSome ↔ name ∈ names := by
  induction members with
  | nil => exact ⟨nofun, nofun⟩
  | cons first value fresh others ih =>
    rw [lookup, List.mem_cons]
    by_cases hfirst : name = first
    · rw [if_pos hfirst]
      exact ⟨fun _ => .inl hfirst, fun _ => rfl⟩
    · rw [if_neg hfirst, ih]
      exact ⟨.inr, (·.resolve_left hfirst)⟩

/-- Of members with one name the last counts. -/
theorem lookup_ofList (entries : List (String × Document)) (name : String) :
    (ofList entries).2.lookup name = entries.reverse.lookup name := by
  induction entries with
  | nil => rfl
  | cons entry entries ih =>
    obtain ⟨first, value⟩ := entry
    rw [List.reverse_cons, List.lookup_append, ← ih, ofList]
    generalize ofList entries = others
    obtain ⟨names, members⟩ := others
    by_cases hname : name = first
    · subst hname
      by_cases fresh : name ∉ names
      · have hnone : members.lookup name = none :=
          Option.not_isSome_iff_eq_none.1 (mt isSome_lookup_iff.1 fresh)
        rw [dif_pos fresh, hnone, Option.none_or, List.lookup_cons_self, lookup, if_pos rfl]
      · have hsome : (members.lookup name).isSome :=
          isSome_lookup_iff.2 (Decidable.not_not.1 fresh)
        rw [dif_neg fresh, Option.or_of_isSome hsome]
    · have hbehind : [(first, value)].lookup name = none := by
        rw [List.lookup_cons, beq_false_of_ne hname]
        rfl
      rw [hbehind, Option.or_none]
      by_cases fresh : first ∉ names
      · rw [dif_pos fresh, lookup, if_neg hname]
      · rw [dif_neg fresh]

end Members

/-- The object of some members; of those with one name the last counts. -/
def ofMembers (members : List (String × Document)) : Document := .object (Members.ofList members).2

/-- The operand that a document stands for. Arrays and objects stand for none. -/
def toOperand [Regex.Engine] : Document → Operand
  | null => .null
  | boolean b => .boolean b
  | number n => .number n.toDouble
  | string s => .string s
  | array _ | object _ => .undefined

end Document

end ScalarExpr

import ScalarExpr.Proofs.Names
import ScalarExpr.Regex.Dialect
/-!
# Changes of a scope

A scope is one document and one map from names to operands, whatever is done to it and
in which order. The document is the one set last, and a name is bound to what was
bound to it last, unless the binding was deleted since. A name that cannot be bound
changes nothing.

## Main definitions

- `Scope.Change` — what can be done to a scope
- `Scope.after`, `Scope.run` — the scope behind one change, and behind many
- `Scope.last` — the effect of the last change that has any
- `Scope.Bindable` — the invariant of changes
- `Scope.Reflects` — a scope stands for a list of changes

## Main statements

- `Scope.document_after`, `Scope.get?_after`: what one change does
- `Scope.view_run`: what many changes do
- `Scope.bindable_run`: only names that can be bound are bound
- `Scope.reflects_run`: a scope stands for what was done to it
-/

namespace ScalarExpr

section

variable [Regex.Engine]

namespace Scope

/-- What can be done to a scope. -/
inductive Change where
  | set (name : String) (value : Operand)
  | del (name : String)
  | setDocument (document : Document)

/-- The document that a change sets. -/
def Change.document? : Change → Option Document
  | .setDocument document => some document
  | .set _ _ | .del _ => none

/-- What a change makes of the binding of a name, if anything. -/
def Change.binding? (name : String) : Change → Option (Option Operand)
  | .set other value => if other = name ∧ isBindingName other then some (some value) else none
  | .del other => if other = name then some none else none
  | .setDocument _ => none

/-- The scope behind a change. If a name cannot be bound it stays as it is. -/
def after (scope : Scope) : Change → Scope
  | .set name value =>
    match scope.set name value with
    | .ok scope' => scope'
    | .error _ => scope
  | .del name => scope.del name
  | .setDocument document => scope.setDocument document

/-- The scope behind changes, one after another. -/
def run (scope : Scope) (changes : List Change) : Scope := changes.foldl after scope

/-- The effect of the last one of the changes that have any. -/
def last {α : Type} (effect : Change → Option α) (initially : α) (changes : List Change) : α :=
  (changes.reverse.findSome? effect).getD initially

/-- Only names that can be bound are bound. -/
def Bindable (scope : Scope) : Prop :=
  ∀ name value, scope.get? name = some value → isBindingName name

/-- The scope stands for what was done, from the initial document on: its document is
    the one set last, and each name is bound to what was bound to it last. Names that
    are bound start with a letter, are read as one variable, and are resolved; other
    paths are resolved by the document, or not at all. -/
structure Reflects (initial : Document) (changes : List Change) (scope : Scope) : Prop where
  document : scope.document = last Change.document? initial changes
  get? : ∀ name, scope.get? name = last (Change.binding? name) none changes
  has : ∀ name, scope.has name = (last (Change.binding? name) none changes).isSome
  accepted : ∀ name value, isBindingName name →
    scope.set name value = .ok (scope.after (.set name value))
  refused : ∀ name value e, scope.set name value = .error e →
    ¬ isBindingName name ∧ scope.after (.set name value) = scope
  bound : ∀ name value, scope.get? name = some value →
    (∃ c ∈ name.toList.head?, c.isAlpha) ∧ tokenize name = .ok [⟨.variable name, 0⟩] ∧
      scope.resolve name = .ok value
  unbound : ∀ path, ¬ IsRooted path → scope.get? path = none →
    scope.resolve path = .error (.variableNotFound path)
  rooted : ∀ path, IsRooted path → ∀ other : Scope, other.document = scope.document →
    other.resolve path = scope.resolve path

variable {scope : Scope} {name : String}

-- ════════════════════════════════════════════════════════════════════════
-- One change
-- ════════════════════════════════════════════════════════════════════════

theorem set_of_isBindingName (h : isBindingName name) (scope : Scope) (value : Operand) :
    scope.set name value = .ok (scope.after (.set name value)) := by
  rw [after, set, if_pos h]

theorem after_set_of_not_isBindingName (h : ¬ isBindingName name) (scope : Scope)
    (value : Operand) : scope.after (.set name value) = scope := by
  rw [after, set, if_neg h]

theorem document_after (scope : Scope) (change : Change) :
    (scope.after change).document = change.document?.getD scope.document := by
  cases change with
  | set name value =>
    by_cases hname : isBindingName name
    · rw [after, set, if_pos hname]
      rfl
    · rw [after_set_of_not_isBindingName hname]
      rfl
  | del | setDocument => rfl

theorem get?_del (scope : Scope) (deleted name : String) :
    (scope.del deleted).get? name = if deleted = name then none else scope.get? name := by
  by_cases hname : deleted = name
  · subst hname
    rw [if_pos rfl, get?, del, List.lookup_eq_none_iff]
    intro b hb
    have hb : b.1 ≠ deleted := of_decide_eq_true (List.mem_filter.1 hb).2
    exact bne_iff_ne.2 (Ne.symm hb)
  · rw [if_neg hname]
    exact lookup_filter_of_ne (Ne.symm hname)

theorem get?_after (scope : Scope) (change : Change) (name : String) :
    (scope.after change).get? name = (change.binding? name).getD (scope.get? name) := by
  cases change with
  | set other value =>
    by_cases hother : isBindingName other
    · rw [get?_of_set (set_of_isBindingName hother scope value), Change.binding?]
      by_cases hname : other = name
      · rw [if_pos hname.symm, if_pos ⟨hname, hother⟩, Option.getD_some]
      · rw [if_neg (Ne.symm hname), if_neg fun h => hname h.1, Option.getD_none]
    · rw [after_set_of_not_isBindingName hother, Change.binding?, if_neg fun h => hother h.2,
        Option.getD_none]
  | del deleted =>
    rw [after, get?_del, Change.binding?]
    by_cases hname : deleted = name
    · rw [if_pos hname, if_pos hname, Option.getD_some]
    · rw [if_neg hname, if_neg hname, Option.getD_none]
  | setDocument document => rfl

theorem isBindingName_of_binding? {change : Change} {value : Operand}
    (h : change.binding? name = some (some value)) : isBindingName name := by
  cases change with
  | set other _ =>
    rw [Change.binding?] at h
    split at h
    · rename_i hother
      exact hother.1 ▸ hother.2
    · cases h
  | del other =>
    rw [Change.binding?] at h
    split at h <;> cases h
  | setDocument => cases h

-- ════════════════════════════════════════════════════════════════════════
-- One change after another
-- ════════════════════════════════════════════════════════════════════════

theorem last_cons {α : Type} (effect : Change → Option α) (initially : α) (change : Change)
    (changes : List Change) :
    last effect initially (change :: changes) =
      last effect ((effect change).getD initially) changes := by
  rw [last, last, List.reverse_cons, List.findSome?_append]
  cases changes.reverse.findSome? effect with
  | none => cases h : effect change <;> simp [h]
  | some answer => rfl

/-- What each change makes of a part of a scope, the last one that says anything about it
    makes in the end. -/
theorem view_run {α : Type} {effect : Change → Option α} (view : Scope → α)
    (hview : ∀ scope change, view (after scope change) = (effect change).getD (view scope))
    (scope : Scope) (changes : List Change) :
    view (scope.run changes) = last effect (view scope) changes := by
  induction changes generalizing scope with
  | nil => rfl
  | cons change changes ih => rw [last_cons, ← hview, ← ih, run, run, List.foldl_cons]

theorem bindable_after (h : scope.Bindable) (change : Change) : (scope.after change).Bindable := by
  intro name value hget
  rw [get?_after] at hget
  cases hbinding : change.binding? name with
  | none =>
    rw [hbinding] at hget
    exact h name value hget
  | some binding =>
    rw [hbinding, Option.getD_some] at hget
    rw [hget] at hbinding
    exact isBindingName_of_binding? hbinding

theorem bindable_run (h : scope.Bindable) (changes : List Change) :
    (scope.run changes).Bindable := by
  induction changes generalizing scope with
  | nil => exact h
  | cons change changes ih => exact ih (bindable_after h change)

-- ════════════════════════════════════════════════════════════════════════
-- What a scope stands for
-- ════════════════════════════════════════════════════════════════════════

theorem resolve_congr {path : String} (h : IsRooted path) {other : Scope}
    (hdocument : other.document = scope.document) : other.resolve path = scope.resolve path := by
  rcases h with h | h <;>
    obtain ⟨tail, hpath⟩ := List.head?_eq_some_iff.1 h <;>
      simp only [resolve, hpath, hdocument]

/-- From an initial document on, a scope stands for what was done to it. -/
theorem reflects_run (initial : Document) (changes : List Change) :
    Reflects initial changes (run { document := initial } changes) := by
  have hget : ∀ name, (run { document := initial } changes).get? name =
      last (Change.binding? name) none changes := by
    intro name
    exact view_run (fun scope => scope.get? name) (fun scope change => get?_after scope change name)
      { document := initial } changes
  have hempty : Bindable { document := initial } := by
    intro name value h
    cases h
  have hbindable := bindable_run hempty changes
  refine
    { document := view_run Scope.document document_after _ changes
      get? := hget
      has := fun name => congrArg Option.isSome (hget name)
      accepted := fun name value h => set_of_isBindingName h _ value
      refused := fun name value e h => ?_
      bound := fun name value h => ?_
      unbound := fun path hpath h => ?_
      rooted := fun path hpath other hdocument => resolve_congr hpath hdocument }
  · have hname : ¬ isBindingName name := by
      intro hname
      rw [set, if_pos hname] at h
      cases h
    exact ⟨hname, after_set_of_not_isBindingName hname _ value⟩
  · obtain ⟨hname, hkeyword⟩ := (isBindingName_iff name).1 (hbindable name value h)
    exact ⟨hname.first, tokenize_of_isName hname hkeyword, by rw [resolve_of_isName _ hname, h]⟩
  · rw [resolve_of_not_isRooted _ hpath, h]

end Scope

end

namespace Scope

/-- A name that cannot be bound and another document leave the binding of `n` alone. -/
theorem reflects_run_refused :
    let changes : List Change :=
      [.set "n" .null, .set "n" (.boolean true), .set "a b" .null,
       .setDocument (.boolean false), .del "m"]
    let scope := run { document := .null } changes
    scope.document = .boolean false ∧ scope.resolve "n" = .ok (.boolean true) ∧
      scope.resolve "a b" = .error (.variableNotFound "a b") := by
  intro changes scope
  have hn : isBindingName "n" := (isBindingName_iff "n").2 ⟨by decide, rfl⟩
  have hblank : ¬ isBindingName "a b" := by
    rw [isBindingName_iff]
    exact fun h => absurd h.1 (by decide)
  have hreflects : Reflects .null changes scope := reflects_run .null changes
  have hbound : scope.get? "n" = some (.boolean true) := by
    rw [hreflects.get?]
    simp [last, changes, List.findSome?_cons, Change.binding?, hn]
  have hunbound : scope.get? "a b" = none := by
    rw [hreflects.get?]
    simp [last, changes, List.findSome?_cons, Change.binding?, hblank]
  exact ⟨hreflects.document, (hreflects.bound "n" _ hbound).2.2,
    hreflects.unbound "a b" (by simp [IsRooted]) hunbound⟩

end Scope

end ScalarExpr

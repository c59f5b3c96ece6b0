import ScalarExpr.Proofs.Operands
import ScalarExpr.Proofs.Reduction
import ScalarExpr.Proofs.Source
import ScalarExpr.Regex.Dialect
/-!
# What a resolver is asked for

Evaluation goes along its tokens once, from the left to the right, and asks for a
variable when it stands before it. Neither prefix order nor evaluation moves a
variable past another one, so the calls follow the text; and the result depends on
the answers to these calls alone.

## Main definitions

- `Run.SameWhere` — a run that is another one if what is asked for has a property
- `Evaluator.AsksAlong` — a run that goes along tokens and asks for their variables

## Main statements

- `Evaluator.asksAlong_reduceHead`: calls follow the tokens
- `Evaluator.sameWhere_reduceHead`: only the answers to the calls matter
- `lookups_of_parse`: what is asked for when a text is evaluated
-/

namespace ScalarExpr

namespace Run

variable {α β : Type} {P : String → Prop} {r s : Run α}

/-- If all paths that the first run asks for have the property, the second run is the
    same. -/
def SameWhere (P : String → Prop) (r s : Run α) : Prop := (∀ path ∈ r.calls, P path) → s = r

namespace SameWhere

theorem refl (P : String → Prop) (r : Run α) : SameWhere P r r := fun _ => rfl

theorem bind {next next' : α → Run β} (h : SameWhere P r s)
    (hnext : ∀ a, r.result = .ok a → SameWhere P (next a) (next' a)) :
    SameWhere P (r >>= next) (s >>= next') := by
  intro hcalls
  have hfirst := (r.calls_prefix_bind next).subset
  obtain rfl := h fun path hpath => hcalls path (hfirst hpath)
  apply bind_congr_of_ok
  intro a ha
  apply hnext a ha
  intro path hpath
  apply hcalls
  rw [bind_of_ok ha]
  exact List.mem_append_right _ hpath

end SameWhere

end Run

section

variable [Regex.Engine]

namespace Evaluator

variable {context : Context} {depth : Nat} {tokens : List Token}

-- ════════════════════════════════════════════════════════════════════════
-- Calls follow the tokens
-- ════════════════════════════════════════════════════════════════════════

/-- The run goes along a part of the tokens and leaves the rest, if it comes to a
    value. It asks for variables of that part only, in their order and for each at most
    once, also if it fails. -/
def AsksAlong (tokens : List Token) (r : Run (Operand × List Token)) : Prop :=
  ∃ used rest, tokens = used ++ rest ∧ r.calls.Sublist (variablePaths used) ∧
    ∀ head, r.result = .ok head → head.2 = rest

namespace AsksAlong

variable {r : Run (Operand × List Token)}

theorem of_error {e : Error} (h : r.result = .error e)
    (hcalls : r.calls.Sublist (variablePaths tokens)) : AsksAlong tokens r := by
  refine ⟨tokens, [], (List.append_nil tokens).symm, hcalls, ?_⟩
  intro head hhead
  rw [h] at hhead
  cases hhead

/-- Nothing is asked for where tokens are passed over. -/
theorem pure (value : Operand) (used rest : List Token) :
    AsksAlong (used ++ rest) (Pure.pure (value, rest)) := by
  refine ⟨used, rest, rfl, List.nil_sublist _, ?_⟩
  intro head hhead
  cases hhead
  rfl

/-- A run that starts behind the first token. -/
theorem cons (h : AsksAlong tokens r) (t : Token) : AsksAlong (t :: tokens) r := by
  obtain ⟨used, rest, rfl, hcalls, hrest⟩ := h
  refine ⟨t :: used, rest, rfl, ?_, hrest⟩
  have hused : variablePaths (t :: used) = variablePaths [t] ++ variablePaths used :=
    variablePaths_append [t] used
  rw [hused]
  exact hcalls.trans (List.sublist_append_right _ _)

/-- A run that goes on where another one stops. -/
theorem bind {next : Operand × List Token → Run (Operand × List Token)} (h : AsksAlong tokens r)
    (hnext : ∀ head, r.result = .ok head → AsksAlong head.2 (next head)) :
    AsksAlong tokens (r >>= next) := by
  obtain ⟨used, rest, rfl, hcalls, hrest⟩ := h
  cases hr : r.result with
  | error e =>
    rw [Run.bind_of_error hr]
    apply of_error rfl
    rw [variablePaths_append]
    exact hcalls.trans (List.sublist_append_left _ _)
  | ok head =>
    obtain rfl := hrest head hr
    obtain ⟨used', rest', hsplit, hcalls', hrest'⟩ := hnext head hr
    rw [Run.bind_of_ok hr]
    refine ⟨used ++ used', rest', ?_, ?_, hrest'⟩
    · rw [hsplit, List.append_assoc]
    · rw [variablePaths_append]
      exact hcalls.append hcalls'

/-- A run that starts with something that asks for nothing. -/
theorem of_bind {α : Type} {result : Except Error α} {next : α → Run (Operand × List Token)}
    (hnext : ∀ a, result = .ok a → AsksAlong tokens (next a)) :
    AsksAlong tokens (Run.of result >>= next) := by
  cases result with
  | error e => exact of_error rfl (List.nil_sublist _)
  | ok a => exact hnext a rfl

end AsksAlong

theorem asksAlong_enter_bind {next : Unit → Run (Operand × List Token)}
    (hnext : AsksAlong tokens (next ())) : AsksAlong tokens (enter context depth >>= next) := by
  rw [enter_eq_of]
  exact AsksAlong.of_bind fun _ _ => hnext

theorem asksAlong_variable (path : String) (offset : Nat) (rest : List Token) :
    AsksAlong (⟨.variable path, offset⟩ :: rest) (resolve context offset path >>= fun value =>
      pure (value, rest)) := by
  unfold resolve
  split
  · rename_i resolver _
    cases hpath : resolver path with
    | error e =>
      have hasked : [path].Sublist (path :: variablePaths rest) :=
        (List.nil_sublist _).cons_cons path
      exact .of_error rfl hasked
    | ok value =>
      refine ⟨[⟨.variable path, offset⟩], rest, rfl, List.Sublist.refl [path], ?_⟩
      intro head hhead
      cases hhead
      rfl
  · exact .of_error rfl (List.nil_sublist _)

theorem asksAlong_reduceRight {op : BinaryOperator} {left : Operand × List Token}
    (h : AsksAlong left.2 (reduceHead context depth left.2)) :
    AsksAlong left.2 (reduceRight context depth op left) := by
  unfold reduceRight
  split
  · apply AsksAlong.of_bind
    intro behind hskip
    obtain ⟨t, hleft⟩ := skip_one_eq_ok_iff.1 hskip
    rw [hleft]
    exact .pure left.1 t.preorder behind
  · apply h.bind
    intro right _
    apply AsksAlong.of_bind
    intro value _
    exact .pure value [] right.2

/-- Evaluation asks for the variables that it passes, in their order. -/
theorem asksAlong_reduceHead (context : Context) (depth : Nat) (tokens : List Token) :
    AsksAlong tokens (reduceHead context depth tokens) := by
  induction tokens using headInduction generalizing depth with
  | nil =>
    rw [reduceHead_nil]
    exact .of_error rfl (List.nil_sublist _)
  | literal value offset rest =>
    rw [reduceHead_literal]
    exact .pure value [⟨.literal value, offset⟩] rest
  | «variable» path offset rest =>
    rw [reduceHead_variable]
    exact asksAlong_variable path offset rest
  | parenthesis kind offset rest hkind =>
    rw [reduceHead_parenthesis hkind]
    exact .of_error rfl (List.nil_sublist _)
  | unary op offset rest ih =>
    rw [reduceHead_unary]
    apply asksAlong_enter_bind
    apply AsksAlong.cons
    apply (ih (depth + 1)).bind
    intro x _
    exact .pure _ [] x.2
  | binary op offset rest ih =>
    rw [reduceHead_operands]
    apply asksAlong_enter_bind
    apply AsksAlong.cons
    apply (ih rest (Nat.le_refl _) (depth + 1)).bind
    intro left hleft
    exact asksAlong_reduceRight (ih left.2 (length_rest_le hleft) (depth + 1))

-- ════════════════════════════════════════════════════════════════════════
-- Only the answers to the calls matter
-- ════════════════════════════════════════════════════════════════════════

variable {resolver other : Resolver} {limit : Option Nat}

theorem sameWhere_resolve (offset : Nat) (path : String) :
    Run.SameWhere (fun path => other path = resolver path)
      (resolve { resolver := some resolver, limit } offset path)
      (resolve { resolver := some other, limit } offset path) := by
  intro hcalls
  have hpath : other path = resolver path := hcalls path (List.mem_singleton.2 rfl)
  exact congrArg (Run.ask path) hpath

theorem sameWhere_reduceRight {op : BinaryOperator} {left : Operand × List Token}
    (h : Run.SameWhere (fun path => other path = resolver path)
      (reduceHead { resolver := some resolver, limit } depth left.2)
      (reduceHead { resolver := some other, limit } depth left.2)) :
    Run.SameWhere (fun path => other path = resolver path)
      (reduceRight { resolver := some resolver, limit } depth op left)
      (reduceRight { resolver := some other, limit } depth op left) := by
  unfold reduceRight
  split
  · exact .refl _ _
  · exact h.bind fun right _ => .refl _ _

/-- Two resolvers that answer alike where the first one is asked give the same
    evaluation. -/
theorem sameWhere_reduceHead (resolver other : Resolver) (limit : Option Nat) (depth : Nat)
    (tokens : List Token) :
    Run.SameWhere (fun path => other path = resolver path)
      (reduceHead { resolver := some resolver, limit } depth tokens)
      (reduceHead { resolver := some other, limit } depth tokens) := by
  induction tokens using headInduction generalizing depth with
  | nil =>
    rw [reduceHead_nil, reduceHead_nil]
    exact .refl _ _
  | literal =>
    rw [reduceHead_literal, reduceHead_literal]
    exact .refl _ _
  | «variable» path offset rest =>
    rw [reduceHead_variable, reduceHead_variable]
    exact (sameWhere_resolve offset path).bind fun value _ => .refl _ _
  | parenthesis kind offset rest hkind =>
    rw [reduceHead_parenthesis hkind, reduceHead_parenthesis hkind]
    exact .refl _ _
  | unary op offset rest ih =>
    rw [reduceHead_unary, reduceHead_unary]
    have henter := Run.SameWhere.refl (fun path => other path = resolver path)
      (enter { resolver := some resolver, limit } depth)
    apply henter.bind
    intro _ _
    exact (ih (depth + 1)).bind fun x _ => .refl _ _
  | binary op offset rest ih =>
    rw [reduceHead_operands, reduceHead_operands]
    have henter := Run.SameWhere.refl (fun path => other path = resolver path)
      (enter { resolver := some resolver, limit } depth)
    apply henter.bind
    intro _ _
    apply (ih rest (Nat.le_refl _) (depth + 1)).bind
    intro left hleft
    exact sameWhere_reduceRight (ih left.2 (length_rest_le hleft) (depth + 1))

end Evaluator

-- ════════════════════════════════════════════════════════════════════════
-- Tokens and texts
-- ════════════════════════════════════════════════════════════════════════

theorem calls_evaluate_sublist (tokens : List Token) (context : Evaluator.Context) :
    (evaluate tokens context).calls.Sublist (variablePaths tokens) := by
  have hsilent : ∀ head : Operand × List Token, (if head.2.isEmpty then pure head.1 else
      .fail .notEnoughArguments : Run Operand).calls = [] := by
    intro head
    split <;> rfl
  obtain ⟨used, rest, rfl, hcalls, _⟩ := Evaluator.asksAlong_reduceHead context 0 tokens
  rw [evaluate_eq_reduceHead, Run.calls_bind_of_silent hsilent, variablePaths_append]
  exact hcalls.trans (List.sublist_append_left _ _)

theorem sameWhere_evaluate (resolver other : Resolver) (limit : Option Nat)
    (tokens : List Token) :
    Run.SameWhere (fun path => other path = resolver path)
      (evaluate tokens { resolver := some resolver, limit })
      (evaluate tokens { resolver := some other, limit }) := by
  rw [evaluate_eq_reduceHead, evaluate_eq_reduceHead]
  exact (Evaluator.sameWhere_reduceHead resolver other limit 0 tokens).bind fun head _ => .refl _ _

/-- The tokens of a text that can be parsed stand one behind the other, and a variable
    is what is written at its offset. Evaluation asks for variables of the text in the
    order in which they stand, for each occurrence at most once, whatever it comes to;
    and it is the same for every resolver that answers these calls alike. -/
theorem lookups_of_parse {text : String} {ordered : List Token} (h : parse text = .ok ordered) :
    ∃ tokens, ReadAs text tokens ∧ (tokens.Pairwise fun t u => t.offset < u.offset) ∧
      (∀ path offset, ⟨.variable path, offset⟩ ∈ tokens →
        Text.StandsAt path.toList (Text.trimEnd text.toList) offset) ∧
      ∀ (resolver : Resolver) (limit : Option Nat),
        (evaluateText text { resolver := some resolver, limit }).calls.Sublist
          (variablePaths tokens) ∧
        ∀ other : Resolver,
          (∀ path ∈ (evaluateText text { resolver := some resolver, limit }).calls,
            other path = resolver path) →
          evaluateText text { resolver := some other, limit } =
            evaluateText text { resolver := some resolver, limit } := by
  obtain ⟨tokens, htokens, hordered⟩ := exists_readAs_of_parse h
  refine ⟨tokens, htokens, htokens.pairwise_offset, fun path offset => htokens.standsAt, ?_⟩
  intro resolver limit
  simp only [evaluateText_of_parse h]
  constructor
  · rw [← variablePaths_of_toPrefix hordered]
    exact calls_evaluate_sublist ordered _
  · intro other hother
    exact sameWhere_evaluate resolver other limit ordered hother

end

/-- In `a&&b||c` with a false `a` the variable `b` is passed over, and it does not matter
    what it would be. -/
theorem lookups_of_parse_skipping :
    let ordered : List Token := [⟨.operator (.logical .or), 4⟩, ⟨.operator (.logical .and), 1⟩,
      ⟨.variable "a", 0⟩, ⟨.variable "b", 3⟩, ⟨.variable "c", 6⟩]
    let resolver : Resolver := fun path => .ok (.boolean (path = "c"))
    let other : Resolver := fun path => .ok (.boolean (path != "a"))
    parse "a&&b||c" = .ok ordered ∧
      (evaluateText "a&&b||c" { resolver := some resolver }).calls = ["a", "c"] ∧
      evaluateText "a&&b||c" { resolver := some other } =
        evaluateText "a&&b||c" { resolver := some resolver } := by
  intro ordered resolver other
  have hread : ReadAs "a&&b||c" [⟨.variable "a", 0⟩, ⟨.operator (.logical .and), 1⟩,
      ⟨.variable "b", 3⟩, ⟨.operator (.logical .or), 4⟩, ⟨.variable "c", 6⟩] := by
    have hc : Lexer.tokensFrom true 6 "c".toList = .ok [⟨.variable "c", 6⟩] :=
      Lexer.tokensFrom_eq_cons rfl rfl (Lexer.tokensFrom_of_dropWhile_eq_nil rfl)
    have hor : Lexer.tokensFrom false 4 "||c".toList =
        .ok [⟨.operator (.logical .or), 4⟩, ⟨.variable "c", 6⟩] :=
      Lexer.tokensFrom_eq_cons rfl rfl hc
    have hb : Lexer.tokensFrom true 3 "b||c".toList =
        .ok [⟨.variable "b", 3⟩, ⟨.operator (.logical .or), 4⟩, ⟨.variable "c", 6⟩] :=
      Lexer.tokensFrom_eq_cons rfl rfl hor
    have hand : Lexer.tokensFrom false 1 "&&b||c".toList =
        .ok [⟨.operator (.logical .and), 1⟩, ⟨.variable "b", 3⟩,
          ⟨.operator (.logical .or), 4⟩, ⟨.variable "c", 6⟩] :=
      Lexer.tokensFrom_eq_cons rfl rfl hb
    exact Lexer.tokensFrom_eq_cons rfl rfl hand
  have hparse : parse "a&&b||c" = .ok ordered := by
    rw [hread.parse_eq]
    rfl
  let t : Tree := .binary ⟨.logical .or, rfl⟩ 4
    (.binary ⟨.logical .and, rfl⟩ 1 (.variable "a" 0) (.variable "b" 3)) (.variable "c" 6)
  have hcalls : (evaluateText "a&&b||c" { resolver := some resolver }).calls = ["a", "c"] := by
    rw [evaluateText_of_parse hparse, show ordered = t.preorder from rfl, evaluate_preorder]
    rfl
  obtain ⟨tokens, _, _, _, hlookups⟩ := lookups_of_parse hparse
  refine ⟨hparse, hcalls, (hlookups resolver none).2 other ?_⟩
  intro path hpath
  rw [hcalls] at hpath
  rcases List.mem_cons.1 hpath with rfl | hpath
  · rfl
  · obtain rfl := List.mem_singleton.1 hpath
    rfl

end ScalarExpr

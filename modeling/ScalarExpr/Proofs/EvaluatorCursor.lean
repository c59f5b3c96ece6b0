import ScalarExpr.Proofs.Conservation
import ScalarExpr.Proofs.Faults
import ScalarExpr.Proofs.Positions
import ScalarExpr.Proofs.Reduction
import ScalarExpr.Regex.Dialect
/-!
# Evaluation with a cursor

Evaluation goes along the tokens with a cursor and two counters: how many operators it
is within, and how many expressions are still to be passed over. A cursor only moves
forward, and a counter is lowered only if it is not zero; a walk that would lower a
counter at zero does not come to anything. No walk does that, and each comes to what
evaluation comes to.

## Main definitions

- `Evaluator.Stop` — where a walk stops and what it comes to
- `Evaluator.passFrom?`, `Evaluator.reduceFrom?` — passing over, and evaluating, with a cursor
- `evaluateAlong?` — evaluation with a cursor, from the first token
- `Evaluator.Stop.NamesParenthesis` — what an unknown operator of a walk is
- `Evaluator.Stop.Meets` — a walk does what is done without a cursor

## Main statements

- `Evaluator.Stop.Meets.andThen?`: one walk after another
- `Evaluator.exists_passFrom?`, `Evaluator.exists_reduceFrom?`: what a walk comes to
- `exists_evaluateAlong?`: what the walk from the first token comes to

## Design notes

A stop keeps that the cursor did not move back. This is all that the recursion over the
operands of an operator has to know, and it is known before anything is proved.
-/

namespace ScalarExpr

namespace Evaluator

/-- Where a walk that begins at `start` stops: what it comes to, the cursor, and how many
    operators it is within. -/
structure Stop (α : Type) (start : Nat) where
  run : Run α
  pos : Nat
  depth : Nat
  start_le : start ≤ pos

namespace Stop

variable {α β : Type} {start : Nat}

/-- The walk began one token earlier. -/
def behindToken (s : Stop α (start + 1)) : Stop α start :=
  { s with start_le := Nat.le_of_succ_le s.start_le }

/-- Go on where a walk stopped, if it came to a value. -/
def andThen? (first : Stop α start) (next : α → Option (Stop β first.pos)) :
    Option (Stop β start) :=
  match first.run.result with
  | .error e => some { first with run := ⟨first.run.calls, .error e⟩ }
  | .ok a => (next a).map fun second =>
    { second with
      run := first.run >>= fun _ => second.run
      start_le := Nat.le_trans first.start_le second.start_le }

/-- Leave an operator; there has to be one. -/
def leave? (s : Stop α start) : Option (Stop α start) :=
  s.depth.ppred.map fun depth => { s with depth }

theorem andThen?_of_error {first : Stop α start} {e : Error} (h : first.run.result = .error e)
    (next : α → Option (Stop β first.pos)) :
    first.andThen? next = some { first with run := ⟨first.run.calls, .error e⟩ } := by
  rw [andThen?, h]

theorem andThen?_of_ok {first : Stop α start} {a : α} (h : first.run.result = .ok a)
    {next : α → Option (Stop β first.pos)} {second : Stop β first.pos}
    (hnext : next a = some second) :
    first.andThen? next = some
      { second with
        run := first.run >>= fun _ => second.run
        start_le := Nat.le_trans first.start_le second.start_le } := by
  simp only [andThen?, h, hnext, Option.map_some]

end Stop

end Evaluator

section

variable [Regex.Engine]

namespace Evaluator

/-- Pass over as many expressions as are pending, the cursor being at `pos`. Of those that
    are pending one is begun with each token, and there has to be one. -/
def passFrom? (tokens : List Token) (depth pending pos : Nat) : Option (Stop Unit pos) :=
  if pending = 0 then some ⟨pure (), pos, depth, Nat.le_refl _⟩
  else
    match _h : tokens[pos]? with
    | none => some ⟨.fail .notEnoughArguments, pos, depth, Nat.le_refl _⟩
    | some t => do
      let others ← pending.ppred
      match t.kind with
      | .operator op => (passFrom? tokens depth (others + op.arity) (pos + 1)).map Stop.behindToken
      | .literal _ | .variable _ => (passFrom? tokens depth others (pos + 1)).map Stop.behindToken
      | .leftParen | .rightParen =>
        some ⟨.fail (.unknownOperator t.display), pos + 1, depth, Nat.le_succ _⟩
termination_by tokens.length - pos
decreasing_by all_goals
  have := lt_length_of_getElem? ‹_›
  omega

/-- Evaluate the operands of an operator, the first one being at `start`, and apply it.
    An operand is evaluated by `reduce`, within so many operators and from a later place. -/
def operate? (tokens : List Token) (op : Operator) (depth start : Nat)
    (reduce : (depth pos : Nat) → start ≤ pos → Option (Stop Operand pos)) :
    Option (Stop Operand start) := do
  let first ← reduce depth start (Nat.le_refl _)
  first.andThen? fun left =>
    match op with
    | .logical op =>
      if op.decides left then do
        let behind ← passFrom? tokens first.depth 1 first.pos
        behind.andThen? fun _ => some ⟨pure left, behind.pos, behind.depth, Nat.le_refl _⟩
      else
        reduce first.depth first.pos first.start_le
    | op =>
      if op.arity = 1 then
        some ⟨Run.of (op.applyUnary left), first.pos, first.depth, Nat.le_refl _⟩
      else do
        let second ← reduce first.depth first.pos first.start_le
        second.andThen? fun right =>
          some ⟨Run.of (op.applyBinary left right), second.pos, second.depth, Nat.le_refl _⟩

/-- Evaluate the expression that begins at the cursor and stands within `depth` operators. -/
def reduceFrom? (context : Context) (tokens : List Token) (depth pos : Nat) :
    Option (Stop Operand pos) :=
  match _h : tokens[pos]? with
  | none => some ⟨.fail .notEnoughArguments, pos, depth, Nat.le_refl _⟩
  | some t =>
    match t.kind with
    | .literal value => some ⟨pure value, pos + 1, depth, Nat.le_succ _⟩
    | .variable path => some ⟨resolve context t.offset path, pos + 1, depth, Nat.le_succ _⟩
    | .leftParen | .rightParen =>
      some ⟨.fail (.unknownOperator t.display), pos + 1, depth, Nat.le_succ _⟩
    | .operator op =>
      match (enter context depth).result with
      | .error e => some ⟨.fail e, pos + 1, depth, Nat.le_succ _⟩
      | .ok () => do
        let inside ← operate? tokens op (depth + 1) (pos + 1) fun depth later _ =>
          reduceFrom? context tokens depth later
        let outside ← inside.leave?
        some outside.behindToken
termination_by tokens.length - pos
decreasing_by
  have := lt_length_of_getElem? ‹_›
  omega

end Evaluator

/-- Evaluation with a cursor: the expression at the first token has to take all of them. -/
def evaluateAlong? (tokens : List Token) (context : Evaluator.Context) :
    Option (Evaluator.Stop Operand 0) := do
  let stop ← Evaluator.reduceFrom? context tokens 0 0
  stop.andThen? fun value =>
    some ⟨if stop.pos = tokens.length then pure value else .fail .notEnoughArguments, stop.pos,
      stop.depth, Nat.le_refl _⟩

namespace Evaluator

/-- The resolver, if there is one, does not speak of unknown operators itself. -/
def Context.NamesNoOperator (context : Context) : Prop :=
  ∀ resolver, context.resolver = some resolver →
    ∀ path spelling, resolver path ≠ .error (.unknownOperator spelling)

-- ════════════════════════════════════════════════════════════════════════
-- What a walk has to do
-- ════════════════════════════════════════════════════════════════════════

variable {α β : Type} {context : Context} {tokens : List Token} {depth start pos : Nat} {t : Token}

/-- The walk fails with an unknown operator exactly if the last token that it passed is a
    parenthesis, which it names. -/
def Stop.NamesParenthesis (tokens : List Token) (s : Stop α start) : Prop :=
  ∀ spelling, s.run.result = .error (.unknownOperator spelling) ↔
    ∃ i t, start ≤ i ∧ s.pos = i + 1 ∧ tokens[i]? = some t ∧ t.kind.isParenthesis ∧
      t.display = spelling

/-- The walk comes to what is expected of the tokens behind its start, stops before the tokens
    that are left over, and is within as many operators as before. -/
structure Stop.Meets (context : Context) (tokens : List Token) (depth : Nat) (s : Stop α start)
    (expected : Run (α × List Token)) : Prop where
  run_eq : (s.run >>= fun a => pure (a, tokens.drop s.pos)) = expected
  pos_le : s.pos ≤ tokens.length
  depth_eq : s.depth = depth
  names : context.NamesNoOperator → s.NamesParenthesis tokens

namespace Stop

variable {s : Stop α start} {expected : Run (α × List Token)}

theorem NamesParenthesis.of_pos_eq (hpos : s.pos = start)
    (hresult : ∀ spelling, s.run.result ≠ .error (.unknownOperator spelling)) :
    s.NamesParenthesis tokens := by
  refine fun spelling => iff_of_false (hresult spelling) ?_
  rintro ⟨i, t, hi, hstop, _⟩
  omega

theorem NamesParenthesis.of_pos_eq_succ (htoken : tokens[start]? = some t)
    (hkind : ¬ t.kind.isParenthesis) (hpos : s.pos = start + 1)
    (hresult : ∀ spelling, s.run.result ≠ .error (.unknownOperator spelling)) :
    s.NamesParenthesis tokens := by
  refine fun spelling => iff_of_false (hresult spelling) ?_
  rintro ⟨i, t', hi, hstop, ht', hkind', _⟩
  obtain rfl : i = start := by omega
  rw [htoken] at ht'
  cases ht'
  exact hkind hkind'

/-- A token that is no parenthesis may have been passed before. -/
theorem NamesParenthesis.behindToken {s : Stop α (start + 1)} (htoken : tokens[start]? = some t)
    (hkind : ¬ t.kind.isParenthesis) (h : s.NamesParenthesis tokens) :
    s.behindToken.NamesParenthesis tokens := by
  refine fun spelling => (h spelling).trans ⟨?_, ?_⟩
  · rintro ⟨i, t', hi, hrest⟩
    exact ⟨i, t', Nat.le_of_succ_le hi, hrest⟩
  · rintro ⟨i, t', hi, hstop, ht', hkind', hspelling⟩
    have hne : i ≠ start := by
      rintro rfl
      rw [htoken] at ht'
      cases ht'
      exact hkind hkind'
    exact ⟨i, t', by omega, hstop, ht', hkind', hspelling⟩

/-- Where the second walk passes nothing, what is left is what the first one passed last, and
    that is no parenthesis. -/
theorem NamesParenthesis.append {first : Stop α start} {second : Stop β first.pos} {a : α}
    (hok : first.run.result = .ok a) (hfirst : first.NamesParenthesis tokens)
    (hsecond : second.NamesParenthesis tokens) (spelling : String) :
    second.run.result = .error (.unknownOperator spelling) ↔
      ∃ i t, start ≤ i ∧ second.pos = i + 1 ∧ tokens[i]? = some t ∧ t.kind.isParenthesis ∧
        t.display = spelling := by
  refine (hsecond spelling).trans ⟨?_, ?_⟩
  · rintro ⟨i, t, hi, hrest⟩
    exact ⟨i, t, Nat.le_trans first.start_le hi, hrest⟩
  · rintro ⟨i, t, hi, hstop, hrest⟩
    refine ⟨i, t, ?_, hstop, hrest⟩
    by_contra hlt
    have hle := second.start_le
    have hlast : first.pos = i + 1 := by omega
    have herror := (hfirst spelling).2 ⟨i, t, hi, hlast, hrest⟩
    rw [hok] at herror
    cases herror

/-- A walk that passes nothing. -/
theorem Meets.of_pos_eq {run : Run α} (hpos : pos ≤ tokens.length)
    (hresult : ∀ spelling, run.result ≠ .error (.unknownOperator spelling)) :
    Meets context tokens depth (⟨run, pos, depth, Nat.le_refl _⟩ : Stop α pos)
      (run >>= fun a => pure (a, tokens.drop pos)) :=
  ⟨rfl, hpos, rfl, fun _ => .of_pos_eq rfl hresult⟩

/-- A walk that passes one token, which is no parenthesis. -/
theorem Meets.of_token {run : Run α} (htoken : tokens[pos]? = some t)
    (hkind : ¬ t.kind.isParenthesis)
    (hresult : context.NamesNoOperator →
      ∀ spelling, run.result ≠ .error (.unknownOperator spelling)) :
    Meets context tokens depth (⟨run, pos + 1, depth, Nat.le_succ _⟩ : Stop α pos)
      (run >>= fun a => pure (a, tokens.drop (pos + 1))) :=
  ⟨rfl, lt_length_of_getElem? htoken, rfl,
    fun hnames => .of_pos_eq_succ htoken hkind rfl (hresult hnames)⟩

/-- A walk that meets a parenthesis first. -/
theorem Meets.of_parenthesis (htoken : tokens[pos]? = some t) (hkind : t.kind.isParenthesis) :
    Meets context tokens depth
      (⟨.fail (.unknownOperator t.display), pos + 1, depth, Nat.le_succ _⟩ : Stop α pos)
      (.fail (.unknownOperator t.display)) := by
  refine ⟨rfl, lt_length_of_getElem? htoken, rfl, fun _ spelling => ⟨?_, ?_⟩⟩
  · rintro ⟨⟩
    exact ⟨pos, t, Nat.le_refl _, rfl, htoken, hkind, rfl⟩
  · rintro ⟨i, t', hi, hstop, ht', _, rfl⟩
    obtain rfl : pos = i := Nat.succ.inj hstop
    rw [htoken] at ht'
    cases ht'
    rfl

theorem Meets.behindToken {s : Stop α (start + 1)} (htoken : tokens[start]? = some t)
    (hkind : ¬ t.kind.isParenthesis) (h : s.Meets context tokens depth expected) :
    s.behindToken.Meets context tokens depth expected :=
  ⟨h.run_eq, h.pos_le, h.depth_eq, fun hnames => (h.names hnames).behindToken htoken hkind⟩

/-- Within an operator there is one to leave. -/
theorem Meets.leave? (h : s.Meets context tokens (depth + 1) expected) :
    ∃ outside, s.leave? = some outside ∧ outside.Meets context tokens depth expected := by
  refine ⟨{ s with depth }, ?_, h.run_eq, h.pos_le, rfl, h.names⟩
  rw [Stop.leave?, h.depth_eq, Nat.ppred_succ, Option.map_some]

/-- One walk after another. -/
theorem Meets.andThen? {first : Stop α start} {next : α → Option (Stop β first.pos)}
    (hfirst : first.Meets context tokens depth expected)
    (following : α × List Token → Run (β × List Token))
    (hnext : ∀ a, first.run.result = .ok a → ∃ second, next a = some second ∧
      second.Meets context tokens depth (following (a, tokens.drop first.pos))) :
    ∃ s, first.andThen? next = some s ∧ s.Meets context tokens depth (expected >>= following) := by
  rw [← hfirst.run_eq, bind_assoc]
  cases hresult : first.run.result with
  | error e =>
    refine ⟨_, andThen?_of_error hresult next, ?_, hfirst.pos_le, hfirst.depth_eq, ?_⟩
    · rw [Run.bind_of_error hresult]
      rfl
    · intro hnames spelling
      rw [← hfirst.names hnames spelling, hresult, Except.error.injEq, Except.error.injEq]
  | ok a =>
    obtain ⟨second, hsecond, hmeets⟩ := hnext a hresult
    refine ⟨_, andThen?_of_ok hresult hsecond, ?_, hmeets.pos_le, hmeets.depth_eq, ?_⟩
    · rw [bind_assoc]
      refine Run.bind_congr_of_ok fun a' ha' => ?_
      rw [hresult] at ha'
      cases ha'
      rw [pure_bind]
      exact hmeets.run_eq
    · intro hnames spelling
      dsimp only
      rw [Run.bind_of_ok hresult]
      exact (hfirst.names hnames).append hresult (hmeets.names hnames) spelling

end Stop

-- ════════════════════════════════════════════════════════════════════════
-- Passing over
-- ════════════════════════════════════════════════════════════════════════

theorem passFrom?_zero :
    passFrom? tokens depth 0 pos = some ⟨pure (), pos, depth, Nat.le_refl _⟩ := by
  rw [passFrom?, if_pos rfl]

theorem passFrom?_of_getElem? (htoken : tokens[pos]? = some t) (others : Nat) :
    passFrom? tokens depth (others + 1) pos =
      match t.kind with
      | .operator op => (passFrom? tokens depth (others + op.arity) (pos + 1)).map Stop.behindToken
      | .literal _ | .variable _ => (passFrom? tokens depth others (pos + 1)).map Stop.behindToken
      | .leftParen | .rightParen =>
        some ⟨.fail (.unknownOperator t.display), pos + 1, depth, Nat.le_succ _⟩ := by
  rw [passFrom?, if_neg (Nat.succ_ne_zero others)]
  split
  · rename_i hnone
    rw [htoken] at hnone
    cases hnone
  · rename_i t' ht'
    rw [htoken] at ht'
    cases ht'
    rfl

theorem passFrom?_of_getElem?_eq_none (hnone : tokens[pos]? = none) (others : Nat) :
    passFrom? tokens depth (others + 1) pos =
      some ⟨.fail .notEnoughArguments, pos, depth, Nat.le_refl _⟩ := by
  rw [passFrom?, if_neg (Nat.succ_ne_zero others)]
  split
  · rfl
  · rename_i t' ht'
    rw [hnone] at ht'
    cases ht'

/-- What is passed over with a cursor is what is passed over without one, and an expression
    is pending at each token. -/
theorem exists_passFrom? (context : Context) (depth pending pos : Nat)
    (hpos : pos ≤ tokens.length) :
    ∃ stop, passFrom? tokens depth pending pos = some stop ∧
      stop.Meets context tokens depth
        (Run.of (skip pending (tokens.drop pos)) >>= fun rest => pure ((), rest)) := by
  cases pending with
  | zero =>
    refine ⟨_, passFrom?_zero, ?_⟩
    rw [skip]
    exact .of_pos_eq hpos (by rintro _ ⟨⟩)
  | succ others =>
    cases htoken : tokens[pos]? with
    | none =>
      rw [drop_eq_nil_of_getElem? htoken]
      exact ⟨_, passFrom?_of_getElem?_eq_none htoken others, .of_pos_eq hpos (by rintro _ ⟨⟩)⟩
    | some t =>
      have hlt := lt_length_of_getElem? htoken
      obtain ⟨kind, offset⟩ := t
      rw [passFrom?_of_getElem? htoken, drop_eq_cons_of_getElem? htoken]
      cases kind with
      | operator op =>
        obtain ⟨stop, hstop, hmeets⟩ :=
          exists_passFrom? context depth (others + op.arity) (pos + 1) hlt
        exact ⟨stop.behindToken, congrArg (Option.map Stop.behindToken) hstop,
          hmeets.behindToken htoken Bool.false_ne_true⟩
      | literal | «variable» =>
        obtain ⟨stop, hstop, hmeets⟩ := exists_passFrom? context depth others (pos + 1) hlt
        exact ⟨stop.behindToken, congrArg (Option.map Stop.behindToken) hstop,
          hmeets.behindToken htoken Bool.false_ne_true⟩
      | leftParen | rightParen => exact ⟨_, rfl, .of_parenthesis htoken rfl⟩
termination_by tokens.length - pos

-- ════════════════════════════════════════════════════════════════════════
-- Evaluating
-- ════════════════════════════════════════════════════════════════════════

theorem reduceFrom?_of_getElem?_eq_none (hnone : tokens[pos]? = none) :
    reduceFrom? context tokens depth pos =
      some ⟨.fail .notEnoughArguments, pos, depth, Nat.le_refl _⟩ := by
  unfold reduceFrom?
  split
  · rfl
  · rename_i t' ht'
    rw [hnone] at ht'
    cases ht'

theorem reduceFrom?_of_getElem? (htoken : tokens[pos]? = some t) :
    reduceFrom? context tokens depth pos =
      match t.kind with
      | .literal value => some ⟨pure value, pos + 1, depth, Nat.le_succ _⟩
      | .variable path => some ⟨resolve context t.offset path, pos + 1, depth, Nat.le_succ _⟩
      | .leftParen | .rightParen =>
        some ⟨.fail (.unknownOperator t.display), pos + 1, depth, Nat.le_succ _⟩
      | .operator op =>
        match (enter context depth).result with
        | .error e => some ⟨.fail e, pos + 1, depth, Nat.le_succ _⟩
        | .ok () => (do
          let inside ← operate? tokens op (depth + 1) (pos + 1) fun depth later _ =>
            reduceFrom? context tokens depth later
          let outside ← inside.leave?
          some outside.behindToken) := by
  conv =>
    lhs
    unfold reduceFrom?
  split
  · rename_i hnone
    rw [htoken] at hnone
    cases hnone
  · rename_i t' ht'
    rw [htoken] at ht'
    cases ht'
    rfl

/-- Operands are evaluated as they are without a cursor, from each place up to the end. -/
def EvaluatesOperands (context : Context) (tokens : List Token) (start : Nat)
    (reduce : (depth pos : Nat) → start ≤ pos → Option (Stop Operand pos)) : Prop :=
  ∀ depth pos hle, pos ≤ tokens.length → ∃ stop, reduce depth pos hle = some stop ∧
    stop.Meets context tokens depth (reduceHead context depth (tokens.drop pos))

section Operands

variable {reduce : (depth pos : Nat) → start ≤ pos → Option (Stop Operand pos)}

theorem exists_operate?_unary (hreduce : EvaluatesOperands context tokens start reduce)
    (hstart : start ≤ tokens.length) (op : UnaryOperator) (depth : Nat) :
    ∃ stop, operate? tokens (.unary op) depth start reduce = some stop ∧
      stop.Meets context tokens depth (do
        let x ← reduceHead context depth (tokens.drop start)
        pure (op.apply x.1, x.2)) := by
  obtain ⟨first, hfirst, hmeets⟩ := hreduce depth start (Nat.le_refl _) hstart
  rw [operate?, hfirst, Option.bind_eq_bind, Option.bind_some]
  refine hmeets.andThen? _ fun left _ => ⟨_, rfl, ?_⟩
  rw [hmeets.depth_eq]
  exact .of_pos_eq hmeets.pos_le fun _ h => nomatch h

/-- Behind a left operand that decides, the right one is passed over. -/
theorem exists_passFrom?_right {first : Stop Operand start} (hfirst : first.pos ≤ tokens.length)
    (left : Operand) (depth : Nat) :
    ∃ stop, (do
        let behind ← passFrom? tokens depth 1 first.pos
        behind.andThen? fun _ =>
          some (⟨pure left, behind.pos, behind.depth, Nat.le_refl _⟩ : Stop Operand behind.pos)) =
        some stop ∧
      stop.Meets context tokens depth (do
        let behind ← Run.of (skip 1 (tokens.drop first.pos))
        pure (left, behind)) := by
  obtain ⟨behind, hbehind, hmeets⟩ := exists_passFrom? context depth 1 first.pos hfirst
  have hregroup : (do
        let behind ← Run.of (skip 1 (tokens.drop first.pos))
        pure (left, behind)) =
      (Run.of (skip 1 (tokens.drop first.pos)) >>= fun rest => pure ((), rest)) >>=
        fun passed => pure (left, passed.2) := by
    simp only [bind_assoc, pure_bind]
  rw [hbehind, hregroup, Option.bind_eq_bind, Option.bind_some]
  refine hmeets.andThen? _ fun _ _ => ⟨_, rfl, ?_⟩
  rw [hmeets.depth_eq]
  exact .of_pos_eq hmeets.pos_le fun _ h => nomatch h

/-- Behind a left operand that does not decide, the right one is evaluated and the operator
    applied. -/
theorem exists_reduce_right (hreduce : EvaluatesOperands context tokens start reduce)
    {first : Stop Operand start} (hfirst : first.pos ≤ tokens.length)
    {apply : Operand → Except Error Operand}
    (hresult : ∀ right spelling, apply right ≠ .error (.unknownOperator spelling)) (depth : Nat) :
    ∃ stop, (do
        let second ← reduce depth first.pos first.start_le
        second.andThen? fun right =>
          some (⟨Run.of (apply right), second.pos, second.depth, Nat.le_refl _⟩ :
            Stop Operand second.pos)) = some stop ∧
      stop.Meets context tokens depth (do
        let right ← reduceHead context depth (tokens.drop first.pos)
        let value ← Run.of (apply right.1)
        pure (value, right.2)) := by
  obtain ⟨second, hsecond, hmeets⟩ := hreduce depth first.pos first.start_le hfirst
  rw [hsecond, Option.bind_eq_bind, Option.bind_some]
  refine hmeets.andThen? _ fun right _ => ⟨_, rfl, ?_⟩
  rw [hmeets.depth_eq]
  exact .of_pos_eq hmeets.pos_le (hresult right)

theorem exists_operate?_binary (hreduce : EvaluatesOperands context tokens start reduce)
    (hstart : start ≤ tokens.length) (op : BinaryOperator) (depth : Nat) :
    ∃ stop, operate? tokens op.1 depth start reduce = some stop ∧
      stop.Meets context tokens depth (do
        let left ← reduceHead context depth (tokens.drop start)
        reduceRight context depth op left) := by
  obtain ⟨first, hfirst, hmeets⟩ := hreduce depth start (Nat.le_refl _) hstart
  rw [operate?, hfirst, Option.bind_eq_bind, Option.bind_some]
  refine hmeets.andThen? _ fun left _ => ?_
  rw [hmeets.depth_eq]
  have hresult : ∀ right spelling,
      op.1.combine left right ≠ .error (.unknownOperator spelling) := by
    intro right spelling h
    obtain ⟨value, hvalue⟩ := op.exists_combine_eq left right
    rw [hvalue] at h
    cases h
  obtain ⟨op, harity⟩ := op
  cases op with
  | unary op => cases harity
  | logical op =>
    by_cases hdecides : op.decides left
    · simp only [hdecides, if_true, reduceRight, Operator.decidedBy]
      exact exists_passFrom?_right hmeets.pos_le left depth
    · simp only [hdecides, if_false, reduceRight, Operator.decidedBy, Operator.combine, Run.of_ok,
        pure_bind, Bool.false_eq_true]
      rw [bind_pure]
      exact hreduce depth first.pos first.start_le hmeets.pos_le
  | bitwise op | comparison op | arithmetic op =>
    exact exists_reduce_right hreduce hmeets.pos_le hresult depth

end Operands

theorem not_unknownOperator_of_enter {spelling : String} :
    (enter context depth).result ≠ .error (.unknownOperator spelling) := by
  unfold enter
  split
  · split <;> exact fun h => nomatch h
  · exact fun h => nomatch h

theorem not_unknownOperator_of_resolve (hnames : context.NamesNoOperator) (offset : Nat)
    (path spelling : String) :
    (resolve context offset path).result ≠ .error (.unknownOperator spelling) := by
  unfold resolve
  split
  · rename_i resolver hresolver
    exact hnames resolver hresolver path spelling
  · exact fun h => nomatch h

/-- What an operator comes to, if it may be entered, once its operands have been evaluated. -/
theorem exists_reduceFrom?_of_operate? {op : Operator} {offset : Nat}
    {expected : Run (Operand × List Token)}
    (htoken : tokens[pos]? = some ⟨.operator op, offset⟩)
    (hinside : ∃ stop, operate? tokens op (depth + 1) (pos + 1) (fun depth later _ =>
        reduceFrom? context tokens depth later) = some stop ∧
      stop.Meets context tokens (depth + 1) expected) :
    ∃ stop, reduceFrom? context tokens depth pos = some stop ∧
      stop.Meets context tokens depth (enter context depth >>= fun _ => expected) := by
  rw [reduceFrom?_of_getElem? htoken, enter_eq_of]
  dsimp only
  cases henter : (enter context depth).result with
  | error e =>
    refine ⟨_, rfl, .of_token htoken Bool.false_ne_true fun _ spelling h => ?_⟩
    cases h
    exact not_unknownOperator_of_enter henter
  | ok _ =>
    obtain ⟨inside, hinside, hmeets⟩ := hinside
    obtain ⟨outside, houtside, hmeetsOutside⟩ := hmeets.leave?
    refine ⟨outside.behindToken, ?_, hmeetsOutside.behindToken htoken Bool.false_ne_true⟩
    simp only [Run.of, hinside, houtside, Option.bind_eq_bind, Option.bind_some]

/-- What is evaluated with a cursor is what is evaluated without one, and there is an operator
    to leave behind the operands of each. -/
theorem exists_reduceFrom? (context : Context) (tokens : List Token) (depth pos : Nat)
    (hpos : pos ≤ tokens.length) :
    ∃ stop, reduceFrom? context tokens depth pos = some stop ∧
      stop.Meets context tokens depth (reduceHead context depth (tokens.drop pos)) := by
  cases htoken : tokens[pos]? with
  | none =>
    rw [drop_eq_nil_of_getElem? htoken, reduceHead_nil]
    exact ⟨_, reduceFrom?_of_getElem?_eq_none htoken, .of_pos_eq hpos fun _ h => nomatch h⟩
  | some t =>
    have hlt := lt_length_of_getElem? htoken
    have hoperands : EvaluatesOperands context tokens (pos + 1) fun depth later _ =>
        reduceFrom? context tokens depth later :=
      fun depth later _ hlater => exists_reduceFrom? context tokens depth later hlater
    obtain ⟨kind, offset⟩ := t
    rw [drop_eq_cons_of_getElem? htoken]
    cases kind with
    | literal value =>
      rw [reduceHead_literal]
      exact ⟨_, reduceFrom?_of_getElem? htoken,
        .of_token htoken Bool.false_ne_true fun _ _ h => nomatch h⟩
    | «variable» path =>
      rw [reduceHead_variable]
      exact ⟨_, reduceFrom?_of_getElem? htoken,
        .of_token htoken Bool.false_ne_true fun hnames =>
          not_unknownOperator_of_resolve hnames offset path⟩
    | leftParen =>
      rw [reduceHead_parenthesis (.inl rfl)]
      exact ⟨_, reduceFrom?_of_getElem? htoken, .of_parenthesis htoken rfl⟩
    | rightParen =>
      rw [reduceHead_parenthesis (.inr rfl)]
      exact ⟨_, reduceFrom?_of_getElem? htoken, .of_parenthesis htoken rfl⟩
    | operator op =>
      rcases op.unary_or_binary with ⟨op, rfl⟩ | ⟨op, rfl⟩
      · rw [reduceHead_unary]
        exact exists_reduceFrom?_of_operate? htoken
          (exists_operate?_unary hoperands hlt op (depth + 1))
      · rw [reduceHead_operands]
        exact exists_reduceFrom?_of_operate? htoken
          (exists_operate?_binary hoperands hlt op (depth + 1))
termination_by tokens.length - pos

theorem Stop.Meets.run_eq_bind {s : Stop α start} {expected : Run (α × List Token)}
    (h : s.Meets context tokens depth expected) :
    s.run = expected >>= fun head => pure head.1 := by
  rw [← h.run_eq, bind_assoc]
  simp only [pure_bind, bind_pure]

end Evaluator

end

open Evaluator

section

variable [Regex.Engine]

/-- The walk from the first token comes to the value of the tokens, or its error. -/
theorem exists_evaluateAlong? (tokens : List Token) (context : Context) :
    ∃ stop, evaluateAlong? tokens context = some stop ∧ stop.run = evaluate tokens context ∧
      stop.pos ≤ tokens.length ∧ stop.depth = 0 ∧
      (context.NamesNoOperator → stop.NamesParenthesis tokens) := by
  let whole (head : Operand × List Token) : Run Operand :=
    if head.2.isEmpty then pure head.1 else .fail .notEnoughArguments
  obtain ⟨first, hfirst, hmeets⟩ := exists_reduceFrom? context tokens 0 0 (Nat.zero_le _)
  have hwhole : ∀ value, (if first.pos = tokens.length then pure value
      else .fail .notEnoughArguments) = whole (value, tokens.drop first.pos) := by
    intro value
    have hle := hmeets.pos_le
    simp only [whole, List.isEmpty_iff, List.drop_eq_nil_iff]
    exact if_congr (by omega) rfl rfl
  have hresult : ∀ head spelling, (whole head).result ≠ .error (.unknownOperator spelling) := by
    intro head spelling
    dsimp only [whole]
    split <;> exact fun h => nomatch h
  rw [evaluateAlong?, hfirst, Option.bind_eq_bind, Option.bind_some]
  simp only [hwhole, hmeets.depth_eq]
  obtain ⟨stop, hstop, hmeetsStop⟩ := hmeets.andThen?
    (fun head => whole head >>= fun value => pure (value, head.2))
    fun value _ => ⟨_, rfl, .of_pos_eq hmeets.pos_le (hresult (value, tokens.drop first.pos))⟩
  refine ⟨stop, hstop, ?_, hmeetsStop.pos_le, hmeetsStop.depth_eq, hmeetsStop.names⟩
  rw [hmeetsStop.run_eq_bind, evaluate_eq_reduceHead, List.drop_zero, bind_assoc]
  simp only [bind_assoc, pure_bind, bind_pure]
  rfl

-- ════════════════════════════════════════════════════════════════════════
-- Unknown operators
-- ════════════════════════════════════════════════════════════════════════

theorem display_ne_spelling {kind : TokenKind} (hkind : kind.isParenthesis) (op : Operator) :
    kind.display ≠ op.spelling := by
  have hspelling : op.spelling ≠ "(" ∧ op.spelling ≠ ")" := by
    cases op with
    | logical op | bitwise op | comparison op | arithmetic op | unary op => cases op <;> decide
  cases kind with
  | leftParen => exact hspelling.1.symm
  | rightParen => exact hspelling.2.symm
  | literal | operator | «variable» => cases hkind

/-- No parenthesis comes out of a text. -/
theorem not_isParenthesis_of_parse {text : String} {ordered : List Token}
    (h : parse text = .ok ordered) {t : Token} (ht : t ∈ ordered) : ¬ t.kind.isParenthesis := by
  unfold parse at h
  split at h
  · have hmem := (perm_of_toPrefix h).subset ht
    simpa using (List.mem_filter.1 hmem).2
  · cases h

theorem parse_ne_unknownOperator (text spelling : String) :
    parse text ≠ .error (.unknownOperator spelling) := by
  intro h
  unfold parse at h
  split at h
  · rename_i tokens _
    rw [toPrefix] at h
    split at h <;> cases h
  · rename_i e he
    cases h
    obtain ⟨_, _, _, _, _, _, _, hlex, _⟩ := Lexer.exists_front_of_fault he
    cases hlex

/-- Unless the resolver speaks of unknown operators itself, none is met in a text. In other
    tokens the evaluation fails with an unknown operator exactly if the last token that its
    cursor passed is a parenthesis; this is what it names, and never an operator. -/
theorem unknownOperator_iff_parenthesis {context : Context} (hcontext : context.NamesNoOperator) :
    (∀ text spelling, parse text ≠ .error (.unknownOperator spelling) ∧
      (evaluateText text context).result ≠ .error (.unknownOperator spelling)) ∧
    ∀ tokens, ∃ stop, evaluateAlong? tokens context = some stop ∧
      stop.run = evaluate tokens context ∧
      ∀ spelling,
        ((evaluate tokens context).result = .error (.unknownOperator spelling) ↔
          ∃ i t, stop.pos = i + 1 ∧ tokens[i]? = some t ∧ t.kind.isParenthesis ∧
            t.display = spelling) ∧
        ((evaluate tokens context).result = .error (.unknownOperator spelling) →
          ∀ op : Operator, op.spelling ≠ spelling) := by
  have hnames : ∀ tokens, ∃ stop, evaluateAlong? tokens context = some stop ∧
      stop.run = evaluate tokens context ∧ stop.NamesParenthesis tokens := by
    intro tokens
    obtain ⟨stop, hstop, hrun, _, _, hnames⟩ := exists_evaluateAlong? tokens context
    exact ⟨stop, hstop, hrun, hnames hcontext⟩
  refine ⟨fun text spelling => ⟨parse_ne_unknownOperator text spelling, ?_⟩, fun tokens => ?_⟩
  · unfold evaluateText
    split
    · rename_i tokens hparse
      obtain ⟨stop, _, hrun, hnames⟩ := hnames tokens
      rw [← hrun]
      intro herror
      obtain ⟨i, t, _, _, ht, hkind, _⟩ := (hnames spelling).1 herror
      exact not_isParenthesis_of_parse hparse (List.mem_of_getElem? ht) hkind
    · rename_i e hparse
      rintro ⟨⟩
      exact parse_ne_unknownOperator text spelling hparse
  · obtain ⟨stop, hstop, hrun, hnames⟩ := hnames tokens
    rw [← hrun]
    refine ⟨stop, hstop, rfl, fun spelling => ⟨?_, fun herror op => ?_⟩⟩
    · refine (hnames spelling).trans ⟨?_, ?_⟩
      · rintro ⟨i, t, _, h⟩
        exact ⟨i, t, h⟩
      · rintro ⟨i, t, h⟩
        exact ⟨i, t, Nat.zero_le _, h⟩
    · obtain ⟨_, t, _, _, _, hkind, rfl⟩ := (hnames spelling).1 herror
      exact (display_ne_spelling hkind op).symm

end

/-- A parenthesis is met in place of an operand, and when it is passed over behind a left
    operand that decides; around a variable of a text none is met. -/
theorem unknownOperator_iff_parenthesis_passed :
    let context : Context := { resolver := some fun path => .error (.variableNotFound path) }
    let group : List Token := [⟨.leftParen, 0⟩, ⟨.literal .null, 1⟩, ⟨.rightParen, 5⟩]
    let decided : List Token :=
      [⟨.operator (.logical .and), 6⟩, ⟨.literal (.boolean false), 0⟩, ⟨.rightParen, 9⟩]
    context.NamesNoOperator ∧
      (evaluate group context).result = .error (.unknownOperator "(") ∧
      (∃ stop, evaluateAlong? decided context = some stop ∧ ∃ i t, stop.pos = i + 1 ∧
        decided[i]? = some t ∧ t.kind.isParenthesis ∧ t.display = ")") ∧
      (∀ op : Operator, op.spelling ≠ "(") ∧
      (evaluateText "(x)" context).result ≠ .error (.unknownOperator "(") := by
  intro context group decided
  have hcontext : context.NamesNoOperator := by
    rintro _ ⟨⟩ path spelling ⟨⟩
  have hgroup : (evaluate group context).result = .error (.unknownOperator "(") := by
    rw [evaluate_eq_reduceHead, reduceHead_parenthesis (.inl rfl)]
    rfl
  have hdecided : (evaluate decided context).result = .error (.unknownOperator ")") := by
    rw [evaluate_eq_reduceHead, reduceHead_logical, reduceHead_literal]
    rfl
  obtain ⟨htext, htokens⟩ := unknownOperator_iff_parenthesis hcontext
  obtain ⟨stop, hstop, _, hmet⟩ := htokens decided
  obtain ⟨_, _, _, hnamed⟩ := htokens group
  exact ⟨hcontext, hgroup, ⟨stop, hstop, (hmet ")").1.1 hdecided⟩, (hnamed "(").2 hgroup,
    (htext "(x)" "(").2⟩

end ScalarExpr

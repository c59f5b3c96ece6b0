import ScalarExpr.Proofs.UnaryRuns
import ScalarExpr.Regex.Dialect
/-!
# Groups in parentheses

A group in parentheses is placed as one block, like an operand: while its tokens
are placed, nothing below the boundary of the group is looked at, and when it ends
nothing of it waits any more.

## Main definitions

- `Token.grouped` — tokens in parentheses
- `PrefixOrder.State.above` — a state that waits within a group
- `PrefixOrder.PlacesBlock` — tokens that are placed as one block from any state
- `Surrounds` — where an operand between two parts of a text comes out

## Main statements

- `PrefixOrder.placeFrom?_above`: a group is placed as it would be alone
- `PrefixOrder.placesBlock_grouped`: a group is placed as one block
- `toPrefix_group`: a group takes the place of an operand, in any surroundings
-/

namespace ScalarExpr

section

variable [Regex.Engine]

/-- The tokens in parentheses. -/
def Token.grouped (leftOffset rightOffset : Nat) (tokens : List Token) : List Token :=
  ⟨.leftParen, leftOffset⟩ :: tokens ++ [⟨.rightParen, rightOffset⟩]

namespace PrefixOrder

-- ════════════════════════════════════════════════════════════════════════
-- Above the boundary of a group
-- ════════════════════════════════════════════════════════════════════════

/-- The state within a group that was opened over a stack. -/
def State.above (s : State) (stack : List Pending) : State :=
  ⟨s.stack ++ .group :: stack, s.placed⟩

theorem placePreceding_above (incoming : Operator) (inner stack : List Pending)
    (placed : List Token) :
    placePreceding incoming (inner ++ .group :: stack) placed =
      (placePreceding incoming inner placed).above stack := by
  induction inner generalizing placed with
  | nil => rfl
  | cons p inner ih =>
    cases p with
    | group => rfl
    | operator op offset =>
      simp only [List.cons_append, placePreceding]
      split
      · exact ih (⟨.operator op, offset⟩ :: placed)
      · rfl

theorem placeGroup?_above {inner : List Pending} {placed : List Token} {s : State}
    (h : placeGroup? inner placed = some s) (stack : List Pending) :
    placeGroup? (inner ++ .group :: stack) placed = some (s.above stack) := by
  induction inner generalizing placed with
  | nil => cases h
  | cons p inner ih =>
    cases p with
    | group =>
      cases h
      rfl
    | operator op offset => exact ih h

theorem place_above {t : Token} {s s' : State} (h : place t s = some s') (stack : List Pending) :
    place t (s.above stack) = some (s'.above stack) := by
  obtain ⟨kind, offset⟩ := t
  cases kind with
  | literal | «variable» | rightParen =>
    cases h
    rfl
  | operator op =>
    cases h
    simp only [place, State.above, placePreceding_above, List.cons_append]
  | leftParen => exact placeGroup?_above h stack

/-- Tokens that can be placed alone are placed in the same way within a group: what
    waits outside of the group is neither placed nor covered. -/
theorem placeFrom?_above {tokens : List Token} {s s' : State}
    (h : placeFrom? tokens s = some s') (stack : List Pending) :
    placeFrom? tokens (s.above stack) = some (s'.above stack) := by
  induction tokens generalizing s' with
  | nil =>
    cases h
    rfl
  | cons t tokens ih =>
    rw [placeFrom?_cons] at h
    obtain ⟨s'', htokens, ht⟩ := Option.bind_eq_some_iff.1 h
    rw [placeFrom?_cons, ih htokens, Option.bind_some]
    exact place_above ht stack

/-- What a group leaves waiting is placed when it ends, as it would be at the end
    of a text. -/
theorem placeGroup?_of_placeAll? {inner : List Pending} {placed ordered : List Token}
    (h : placeAll? inner placed = some ordered) (stack : List Pending) :
    placeGroup? (inner ++ .group :: stack) placed = some ⟨stack, ordered⟩ := by
  induction inner generalizing placed with
  | nil =>
    cases h
    rfl
  | cons p inner ih =>
    cases p with
    | group => cases h
    | operator op offset => exact ih h

-- ════════════════════════════════════════════════════════════════════════
-- Blocks
-- ════════════════════════════════════════════════════════════════════════

/-- From any state the tokens are placed as a block: nothing that waited before is
    placed, and nothing more waits. -/
def PlacesBlock (tokens block : List Token) : Prop :=
  ∀ s, placeFrom? tokens s = some ⟨s.stack, block ++ s.placed⟩

theorem placesBlock_operand {x : Token} (hx : x.kind.isOperand) : PlacesBlock [x] [x] :=
  fun s => place_operand hx s

theorem placesBlock_grouped {g p : List Token} (hg : toPrefix g = .ok p)
    (leftOffset rightOffset : Nat) : PlacesBlock (Token.grouped leftOffset rightOffset g) p := by
  intro s
  obtain ⟨inner, hinner, hall⟩ := Option.bind_eq_some_iff.1 (toPrefix_eq_ok_iff.1 hg)
  -- the group starts in a state with nothing in it, over the stack and the tokens placed
  have hplace : placeFrom? g ⟨.group :: s.stack, s.placed⟩ =
      some ((inner.above s.stack).over s.placed) := by
    change placeFrom? g ((State.above {} s.stack).over s.placed) = _
    rw [placeFrom?_over, placeFrom?_above hinner s.stack]
    rfl
  have hopen : place ⟨.rightParen, rightOffset⟩ s = some ⟨.group :: s.stack, s.placed⟩ := rfl
  rw [Token.grouped, placeFrom?_append, placeFrom?_cons, placeFrom?_nil, Option.bind_some, hopen,
    Option.bind_some, placeFrom?_cons, hplace, Option.bind_some]
  change placeGroup? (inner.stack ++ .group :: s.stack) (inner.placed ++ s.placed) = _
  rw [placeGroup?_over, placeGroup?_of_placeAll? hall]
  rfl

theorem orderFrom?_placesBlock {m block : List Token} (h : PlacesBlock m block) (a b : List Token)
    (s : State) :
    orderFrom? (a ++ m ++ b) s = (placeFrom? b s).bind fun s =>
      (orderFrom? a ⟨s.stack, []⟩).map (· ++ (block ++ s.placed)) := by
  rw [orderFrom?_append]
  cases placeFrom? b s with
  | none => rfl
  | some s =>
    rw [Option.bind_some, Option.bind_some, orderFrom?_append, h s, Option.bind_some]
    exact orderFrom?_over a ⟨s.stack, []⟩ (block ++ s.placed)

end PrefixOrder

open PrefixOrder

/-- Whether two parts of a text can be put in prefix order around a block does not
    depend on the block, nor does where it comes out. -/
theorem toPrefix_placesBlock (a b : List Token) :
    (∀ m block, PlacesBlock m block → toPrefix (a ++ m ++ b) = .error .mismatchedParentheses) ∨
    ∃ before behind, ∀ m block, PlacesBlock m block →
      toPrefix (a ++ m ++ b) = .ok (before ++ block ++ behind) := by
  simp only [toPrefix_eq_ok_iff, toPrefix_eq_error_iff, and_true]
  cases hright : placeFrom? b {} with
  | none =>
    refine .inl fun m block hm => ?_
    rw [orderFrom?_placesBlock hm, hright, Option.bind_none]
  | some s =>
    cases hleft : orderFrom? a ⟨s.stack, []⟩ with
    | none =>
      refine .inl fun m block hm => ?_
      rw [orderFrom?_placesBlock hm, hright, Option.bind_some, hleft, Option.map_none]
    | some before =>
      refine .inr ⟨before, s.placed, fun m block hm => ?_⟩
      rw [orderFrom?_placesBlock hm, hright, Option.bind_some, hleft, Option.map_some,
        List.append_assoc]

/-- Between the two parts of the text an operand comes out between `before` and
    `behind`, whichever it is. -/
def Surrounds (a b before behind : List Token) : Prop :=
  ∀ x : Token, x.kind.isOperand → toPrefix (a ++ [x] ++ b) = .ok (before ++ [x] ++ behind)

/-- Where every operand comes out is one place. -/
theorem eq_of_append_operand_eq {u v u' v' : List Token}
    (h : ∀ x : Token, x.kind.isOperand → u ++ [x] ++ v = u' ++ [x] ++ v') : u = u' ∧ v = v' := by
  have hfirst := h ⟨.literal .null, 0⟩ rfl
  have hsecond := h ⟨.literal .null, 1⟩ rfl
  induction u generalizing u' with
  | nil =>
    cases u' with
    | nil => exact ⟨rfl, (List.cons.inj hfirst).2⟩
    | cons t u' =>
      have hsame := (List.cons.inj hfirst).1.trans (List.cons.inj hsecond).1.symm
      exact absurd (congrArg Token.offset hsame) Nat.zero_ne_one
  | cons t u ih =>
    cases u' with
    | nil =>
      have hsame := (List.cons.inj hfirst).1.symm.trans (List.cons.inj hsecond).1
      exact absurd (congrArg Token.offset hsame) Nat.zero_ne_one
    | cons t' u' =>
      obtain rfl := (List.cons.inj hfirst).1
      obtain ⟨rfl, hv⟩ := ih (fun x hx => (List.cons.inj (h x hx)).2) (List.cons.inj hfirst).2
        (List.cons.inj hsecond).2
      exact ⟨rfl, hv⟩

/-- A block takes the place of an operand. -/
theorem Surrounds.toPrefix_eq {a b before behind m block : List Token}
    (h : Surrounds a b before behind) (hm : PlacesBlock m block) :
    toPrefix (a ++ m ++ b) = .ok (before ++ block ++ behind) := by
  rcases toPrefix_placesBlock a b with hfail | ⟨before', behind', hblock⟩
  · have hoperand : (⟨.literal .null, 0⟩ : Token).kind.isOperand := rfl
    have hnull := h _ hoperand
    rw [hfail _ _ (placesBlock_operand hoperand)] at hnull
    cases hnull
  · obtain ⟨rfl, rfl⟩ := eq_of_append_operand_eq fun x hx =>
      Except.ok.inj ((h x hx).symm.trans (hblock _ _ (placesBlock_operand hx)))
    exact hblock m block hm

/-- A group that can be put in prefix order by itself is one operand, in any
    surroundings: it changes no failure, and where there is none, its own prefix
    order comes out in one piece in the place of the operand. Groups nest: what
    surrounds a group within a group stays around its prefix order. -/
theorem toPrefix_group {g p : List Token} (hg : toPrefix g = .ok p) (leftOffset rightOffset : Nat)
    (a b : List Token) :
    ((∀ x : Token, x.kind.isOperand →
        toPrefix (a ++ [x] ++ b) = .error .mismatchedParentheses) ∧
      toPrefix (a ++ Token.grouped leftOffset rightOffset g ++ b) =
        .error .mismatchedParentheses) ∨
    ∃ before behind, Surrounds a b before behind ∧
      toPrefix (a ++ Token.grouped leftOffset rightOffset g ++ b) =
        .ok (before ++ p ++ behind) ∧
      ∀ a' b' before' behind', Surrounds a' b' before' behind' → ∀ leftOffset' rightOffset',
        toPrefix (a' ++ Token.grouped leftOffset' rightOffset'
            (a ++ Token.grouped leftOffset rightOffset g ++ b) ++ b') =
          .ok (before' ++ (before ++ p ++ behind) ++ behind') := by
  have hgroup := placesBlock_grouped hg leftOffset rightOffset
  rcases toPrefix_placesBlock a b with hfail | ⟨before, behind, hblock⟩
  · exact .inl ⟨fun x hx => hfail _ _ (placesBlock_operand hx), hfail _ _ hgroup⟩
  · have hordered := hblock _ _ hgroup
    refine .inr ⟨before, behind, fun x hx => hblock _ _ (placesBlock_operand hx), hordered, ?_⟩
    intro a' b' before' behind' houter leftOffset' rightOffset'
    exact houter.toPrefix_eq (placesBlock_grouped hordered leftOffset' rightOffset')

end

theorem toPrefix_group_amid_power :
    toPrefix [⟨.variable "x", 6⟩, ⟨.operator (.logical .or), 8⟩, ⟨.variable "y", 11⟩] =
      .ok [⟨.operator (.logical .or), 8⟩, ⟨.variable "x", 6⟩, ⟨.variable "y", 11⟩] ∧
    ∃ before behind,
      Surrounds [⟨.operator (.unary .minus), 0⟩, ⟨.variable "z", 1⟩,
        ⟨.operator (.arithmetic .power), 3⟩] [⟨.variable "w", 14⟩] before behind ∧
      toPrefix ([⟨.operator (.unary .minus), 0⟩, ⟨.variable "z", 1⟩,
          ⟨.operator (.arithmetic .power), 3⟩] ++ Token.grouped 5 12 [⟨.variable "x", 6⟩,
          ⟨.operator (.logical .or), 8⟩, ⟨.variable "y", 11⟩] ++ [⟨.variable "w", 14⟩]) =
        .ok (before ++ [⟨.operator (.logical .or), 8⟩, ⟨.variable "x", 6⟩, ⟨.variable "y", 11⟩] ++
          behind) := by
  have hg : toPrefix [⟨.variable "x", 6⟩, ⟨.operator (.logical .or), 8⟩, ⟨.variable "y", 11⟩] =
      .ok [⟨.operator (.logical .or), 8⟩, ⟨.variable "x", 6⟩, ⟨.variable "y", 11⟩] := rfl
  refine ⟨hg, ?_⟩
  rcases toPrefix_group hg 5 12
      [⟨.operator (.unary .minus), 0⟩, ⟨.variable "z", 1⟩, ⟨.operator (.arithmetic .power), 3⟩]
      [⟨.variable "w", 14⟩] with ⟨hfail, _⟩ | ⟨before, behind, hsurrounds, hordered, _⟩
  · have hnull := hfail ⟨.literal .null, 5⟩ rfl
    cases hnull
  · exact ⟨before, behind, hsurrounds, hordered⟩

end ScalarExpr

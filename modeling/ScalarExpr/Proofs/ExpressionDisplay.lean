import ScalarExpr.Expression
import ScalarExpr.Proofs.Conservation
import ScalarExpr.Proofs.PrefixDisplay
import ScalarExpr.Proofs.RegexpLiterals
import ScalarExpr.Proofs.Skipping
import ScalarExpr.Regex.Dialect
/-!
# Expressions that display alike

Two expressions with the same display are the same up to what a minus is, unless one has a
division where the other has a literal that starts like one. If they are the same up to that, and
no negation stands before a subtraction in either, they are the same, and come to the same value.
If one stands before a subtraction in an expression, the two may change places: there is another
expression with the same display.

## Main definitions

- `Expression.Spells` — a text that spells one expression, its numbers being finite

## Main statements

- `Evaluator.skip_exchange`: a negation and a subtraction behind it may change places
- `Expression.exists_twin`: then another text has the same display
- `Expression.kinds_of_display_eq`: what the display tells
-/

namespace ScalarExpr

open TokenKind

section

variable [Regex.Engine]

/-- The token is no number, or a finite one. -/
def TokenKind.isFinite : TokenKind → Bool
  | .literal (.number n) => n.isFinite
  | _ => true

namespace Expression

def kinds (e : Expression) : List TokenKind := e.tokens.map Token.kind

/-- The text spells the expression, which is a single one, and its numbers are finite. -/
structure Spells (text : String) (e : Expression) : Prop where
  ofText_eq : ofText text = .ok e
  complete : ∃ t : Tree, e.tokens = t.preorder
  finite : ∀ kind ∈ e.kinds, kind.isFinite

theorem parse_of_ofText {text : String} {e : Expression} (h : ofText text = .ok e) :
    parse text = .ok e.tokens := by
  unfold ofText at h
  split at h
  · rename_i tokens hparse
    cases h
    exact hparse
  · cases h

/-- Each token could be read where it stood in the text. -/
theorem Spells.exists_readableIn {text : String} {e : Expression} (h : Spells text e) :
    ∀ kind ∈ e.kinds, ∃ operandExpected, kind.ReadableIn operandExpected := by
  intro kind hkind
  obtain ⟨t, ht, rfl⟩ := List.mem_map.1 hkind
  obtain ⟨tokens, htokens, hprefix⟩ := exists_readAs_of_parse (parse_of_ofText h.ofText_eq)
  have hmem := (List.mem_filter.1 ((perm_of_toPrefix hprefix).subset ht)).1
  obtain ⟨operandExpected, c, tail, rest, hread⟩ := Lexer.exists_readToken_of_mem htokens hmem
  refine ⟨operandExpected, Lexer.readableIn_of_readToken hread fun n hn => ?_⟩
  have hfinite := h.finite t.kind hkind
  rwa [hn] at hfinite

theorem spells_of_readAs {text : String} {tokens : List Token} {t : Tree}
    (h : ReadAs text tokens) (ht : toPrefix tokens = .ok t.preorder)
    (hfinite : t.preorder.all fun token => token.kind.isFinite) :
    Spells text { source := text, tokens := t.preorder } := by
  refine ⟨?_, ⟨t, rfl⟩, fun kind hkind => ?_⟩
  · rw [ofText, h.parse_eq, ht]
  · obtain ⟨token, htoken, rfl⟩ := List.mem_map.1 hkind
    exact List.all_eq_true.1 hfinite token htoken

theorem evaluate_tree (text : String) (t : Tree) (resolver : Option Resolver) :
    evaluate { source := text, tokens := t.preorder } resolver = t.value resolver :=
  evaluate_preorder resolver t

theorem display_eq (e : Expression) :
    e.display = " ".intercalate (e.kinds.map TokenKind.display) := by
  rw [display, Token.displayAll, kinds, List.map_map]
  rfl

theorem displayBehind_kinds {text : String} {e : Expression} (h : Spells text e) :
    displayBehind e.kinds = ' ' :: e.display.toList := by
  obtain ⟨t, ht⟩ := h.complete
  exact displayBehind_eq (ht ▸ t.preorder_ne_nil)

end Expression

-- ════════════════════════════════════════════════════════════════════════
-- Twins
-- ════════════════════════════════════════════════════════════════════════

namespace Evaluator

/-- What is put in the place of an end of the tokens may take up more expressions. -/
theorem skip_append_of_skip (more : Nat) {tokens tokens' : List Token}
    (h : ∀ pending, skip pending tokens = .ok [] → skip (pending + more) tokens' = .ok [])
    {front : List Token} {pending : Nat} (hskip : skip pending (front ++ tokens) = .ok []) :
    skip (pending + more) (front ++ tokens') = .ok [] := by
  induction front generalizing pending with
  | nil => exact h pending hskip
  | cons t front ih =>
    obtain ⟨kind, offset⟩ := t
    cases pending with
    | zero => cases hskip
    | succ pending =>
      rw [Nat.add_right_comm]
      cases kind with
      | literal | «variable» =>
        have hbehind : skip (pending + more) (front ++ tokens') = .ok [] := ih hskip
        exact hbehind
      | operator op =>
        have hbehind : skip (pending + op.arity + more) (front ++ tokens') = .ok [] := ih hskip
        rw [Nat.add_right_comm] at hbehind
        exact hbehind
      | leftParen | rightParen => cases hskip

/-- A negation and a subtraction behind it may change places. -/
theorem skip_exchange {front middle behind : List Token} {offset offset' : Nat}
    (h : skip 1 (front ++ ⟨negation, offset⟩ :: (middle ++ ⟨subtraction, offset'⟩ :: behind)) =
      .ok []) :
    skip 1 (front ++ ⟨subtraction, offset⟩ :: (middle ++ ⟨negation, offset'⟩ :: behind)) =
      .ok [] := by
  refine skip_append_of_skip 0 (fun pending hpending => ?_) h
  cases pending with
  | zero => cases hpending
  | succ pending =>
    -- an operand more is pending from one place to the other
    have hmiddle : skip (pending + 1) (middle ++ ⟨subtraction, offset'⟩ :: behind) = .ok [] :=
      hpending
    refine skip_append_of_skip 1 (fun pending hpending => ?_) hmiddle
    cases pending with
    | zero => cases hpending
    | succ pending => exact hpending

end Evaluator

theorem exists_append_of_not_negationsLast {kinds : List TokenKind} (h : ¬ NegationsLast kinds) :
    ∃ front middle behind, kinds = front ++ negation :: (middle ++ subtraction :: behind) := by
  induction kinds with
  | nil => exact absurd .nil h
  | cons kind kinds ih =>
    by_cases hfirst : kind = negation ∧ subtraction ∈ kinds
    · obtain ⟨rfl, hmem⟩ := hfirst
      obtain ⟨middle, behind, rfl⟩ := List.append_of_mem hmem
      exact ⟨[], middle, behind, rfl⟩
    · have hothers : ¬ NegationsLast kinds := by
        intro hothers
        refine h (List.pairwise_cons.2 ⟨fun later hlater hkind hsubtraction => ?_, hothers⟩)
        exact hfirst ⟨hkind, hsubtraction ▸ hlater⟩
      obtain ⟨front, middle, behind, rfl⟩ := ih hothers
      exact ⟨kind :: front, middle, behind, rfl⟩

namespace Tree

theorem readable_of_forall {t : Tree} (h : ∀ kind ∈ t.preorder.map Token.kind,
    ∃ operandExpected, kind.ReadableIn operandExpected) : t.Readable := by
  induction t with
  | literal value offset =>
    obtain ⟨_, hliteral, _⟩ := h _ List.mem_cons_self
    exact hliteral
  | «variable» path offset =>
    obtain ⟨_, hvariable⟩ := h _ List.mem_cons_self
    exact hvariable
  | unary op offset x ih => exact ih fun kind hkind => h kind (List.mem_cons_of_mem _ hkind)
  | binary op offset l r ihl ihr =>
    rw [preorder, List.map_cons, List.map_append] at h
    exact ⟨ihl fun kind hkind => h kind (List.mem_cons_of_mem _ (List.mem_append_left _ hkind)),
      ihr fun kind hkind => h kind (List.mem_cons_of_mem _ (List.mem_append_right _ hkind))⟩

/-- Every tree can be written, with parentheses around every application. -/
theorem exists_writtenAs (t : Tree) : ∃ text, t.WrittenAs text := by
  let grouped : List TokenKind := .leftParen :: (t.bracketed ++ [.rightParen])
  let tokens : List Token := grouped.map (⟨·, 0⟩)
  have hne : tokens ≠ [] := List.cons_ne_nil _ _
  have hkinds : tokens.map Token.kind = grouped := by
    rw [List.map_map]
    exact List.map_id _
  have hspelled := Lexer.spelled_displayAll hne
  rw [hkinds] at hspelled
  exact ⟨_, writtenAs_of_bracketed (.inl hspelled)⟩

end Tree

namespace Expression

/-- A tree of tokens that can be read is spelled by a text. -/
theorem exists_spells {t : Tree} (ht : t.Readable)
    (hfinite : ∀ kind ∈ t.preorder.map Token.kind, kind.isFinite) :
    ∃ text e, Spells text e ∧ e.kinds = t.preorder.map Token.kind := by
  obtain ⟨text, htext⟩ := t.exists_writtenAs
  obtain ⟨t', hparse, hkinds⟩ := htext.exists_parse_eq ht
  refine ⟨text, { source := text, tokens := t'.preorder }, ⟨?_, ⟨t', rfl⟩, ?_⟩, hkinds⟩
  · rw [ofText, hparse]
  · rw [kinds, hkinds]
    exact hfinite

variable {text text' : String} {e e' : Expression}

/-- Where a negation stands before a subtraction, another text has the same display. -/
theorem exists_twin (h : Spells text e) (hnot : ¬ NegationsLast e.kinds) :
    ∃ text' e', Spells text' e' ∧ e'.display = e.display ∧ e'.kinds ≠ e.kinds := by
  obtain ⟨front, middle, behind, hsplit⟩ := exists_append_of_not_negationsLast hnot
  have hskip : Evaluator.skip 1 (e.kinds.map (⟨·, 0⟩)) = .ok [] := by
    obtain ⟨t, ht⟩ := h.complete
    have hwhole : Evaluator.skip 1 e.tokens = .ok [] :=
      Evaluator.skip_one_eq_ok_iff.2 ⟨t, by rw [ht, List.append_nil]⟩
    rw [kinds, ← Token.map_atStart_eq, Evaluator.skip_map_atStart, hwhole]
    rfl
  rw [hsplit, List.map_append, List.map_cons, List.map_append, List.map_cons] at hskip
  obtain ⟨t, ht⟩ := Evaluator.skip_one_eq_ok_iff.1 (Evaluator.skip_exchange hskip)
  have hkinds : t.preorder.map Token.kind =
      front ++ subtraction :: (middle ++ negation :: behind) := by
    rw [List.append_nil] at ht
    rw [← ht]
    simp [Function.comp_def]
  have hsubset : ∀ kind ∈ t.preorder.map Token.kind, kind ∈ e.kinds := by
    intro kind hkind
    rw [hkinds] at hkind
    rw [hsplit]
    simp only [List.mem_append, List.mem_cons] at hkind ⊢
    rcases hkind with hfront | rfl | hmiddle | rfl | hbehind
    · exact .inl hfront
    · exact .inr (.inr (.inr (.inl rfl)))
    · exact .inr (.inr (.inl hmiddle))
    · exact .inr (.inl rfl)
    · exact .inr (.inr (.inr (.inr hbehind)))
  have hreadable : t.Readable :=
    Tree.readable_of_forall fun kind hkind => h.exists_readableIn kind (hsubset kind hkind)
  obtain ⟨text', e', hspells, he'⟩ :=
    exists_spells hreadable fun kind hkind => h.finite kind (hsubset kind hkind)
  refine ⟨text', e', hspells, ?_, ?_⟩
  · have hminus : subtraction.display = negation.display := rfl
    simp only [display_eq, he', hkinds, hsplit, List.map_append, List.map_cons, hminus]
  · rw [he', hkinds, hsplit]
    intro heq
    exact absurd (List.cons.inj (List.append_cancel_left heq)).1 (fun hsame => nomatch hsame)

-- ════════════════════════════════════════════════════════════════════════
-- Expressions with the same display
-- ════════════════════════════════════════════════════════════════════════

/-- Expressions with the same display are the same except for what a minus is, and have as many
    negations, unless one has a division where the other has a literal that starts with a slash
    and a space. If they are the same up to that, and no negation stands before a subtraction in
    either, they are the same, and come to the same with every resolver and every limit. Where one
    stands before a subtraction, another expression has the same display. -/
theorem kinds_of_display_eq (h : Spells text e) :
    (∀ text' e', Spells text' e' → e.display = e'.display →
      SlashesDiffer e.kinds e'.kinds ∨ SlashesDiffer e'.kinds e.kinds ∨
        e.kinds.map outline = e'.kinds.map outline ∧
          e.kinds.count negation = e'.kinds.count negation ∧
          (NegationsLast e.kinds → NegationsLast e'.kinds → e.kinds = e'.kinds ∧
            ∀ resolver limit, (e.withLimit limit).evaluate (some resolver) =
              (e'.withLimit limit).evaluate (some resolver))) ∧
      (¬ NegationsLast e.kinds →
        ∃ text' e', Spells text' e' ∧ e'.display = e.display ∧ e'.kinds ≠ e.kinds) := by
  refine ⟨fun text' e' h' hdisplay => ?_, exists_twin h⟩
  have hbehind : displayBehind e.kinds = displayBehind e'.kinds := by
    rw [displayBehind_kinds h, displayBehind_kinds h', hdisplay]
  rcases map_outline_eq_of_displayBehind h.exists_readableIn h'.exists_readableIn hbehind with
    houtline | hslashes | hslashes
  · have hcount : e.kinds.count negation = e'.kinds.count negation := by
      obtain ⟨t, ht⟩ := h.complete
      obtain ⟨t', ht'⟩ := h'.complete
      rw [kinds, kinds, ht, ht'] at houtline ⊢
      exact count_negation_eq houtline
    refine .inr (.inr ⟨houtline, hcount, fun hlast hlast' => ?_⟩)
    have hkinds := eq_of_negationsLast houtline hcount hlast hlast'
    exact ⟨hkinds, fun resolver limit => evaluate_eq_of_kinds rfl hkinds⟩
  · exact .inl hslashes
  · exact .inr (.inl hslashes)

end Expression

end

namespace Expression

/-- The spaces around a subtraction of a negated number are no part of its display. -/
theorem kinds_of_display_eq_negated :
    ∃ e e', Spells "1 - -2" e ∧ Spells "1--2" e' ∧ e.display = e'.display ∧
      ¬ SlashesDiffer e.kinds e'.kinds ∧ ¬ SlashesDiffer e'.kinds e.kinds ∧
      NegationsLast e.kinds ∧ NegationsLast e'.kinds ∧ e.kinds = e'.kinds ∧
      ∀ resolver limit, (e.withLimit limit).evaluate (some resolver) =
        (e'.withLimit limit).evaluate (some resolver) := by
  let tree (outer inner last : Nat) : Tree :=
    .binary ⟨.arithmetic .minus, rfl⟩ outer (.literal (.ofInt 1) 0)
      (.unary .minus inner (.literal (.ofInt 2) last))
  have hspaced : ReadAs "1 - -2" [⟨.literal (.ofInt 1), 0⟩, ⟨subtraction, 2⟩, ⟨negation, 4⟩,
      ⟨.literal (.ofInt 2), 5⟩] :=
    Lexer.tokensFrom_eq_cons rfl rfl <| Lexer.tokensFrom_eq_cons rfl rfl <|
      Lexer.tokensFrom_eq_cons rfl rfl <| Lexer.tokensFrom_eq_cons rfl rfl <|
        Lexer.tokensFrom_of_dropWhile_eq_nil rfl
  have htight : ReadAs "1--2" [⟨.literal (.ofInt 1), 0⟩, ⟨subtraction, 1⟩, ⟨negation, 2⟩,
      ⟨.literal (.ofInt 2), 3⟩] :=
    Lexer.tokensFrom_eq_cons rfl rfl <| Lexer.tokensFrom_eq_cons rfl rfl <|
      Lexer.tokensFrom_eq_cons rfl rfl <| Lexer.tokensFrom_eq_cons rfl rfl <|
        Lexer.tokensFrom_of_dropWhile_eq_nil rfl
  have h : Spells "1 - -2" ⟨"1 - -2", (tree 2 4 5).preorder, none⟩ :=
    spells_of_readAs hspaced rfl (by decide +kernel)
  have h' : Spells "1--2" ⟨"1--2", (tree 1 2 3).preorder, none⟩ :=
    spells_of_readAs htight rfl (by decide +kernel)
  have hslashes : ∀ kinds, ¬ SlashesDiffer ((tree 2 4 5).preorder.map Token.kind) kinds := by
    rintro kinds ⟨front, front', literal, behind, behind', hkinds, _⟩
    have hmem : division ∈ front ++ division :: behind := by simp
    rw [← hkinds] at hmem
    exact absurd hmem (by decide)
  have hlast : NegationsLast ((tree 2 4 5).preorder.map Token.kind) := by decide
  rcases (kinds_of_display_eq h).1 _ _ h' rfl with hdiffer | hdiffer | ⟨_, _, hsame⟩
  · exact absurd hdiffer (hslashes _)
  · exact absurd hdiffer (hslashes _)
  · obtain ⟨hkinds, hevaluate⟩ := hsame hlast hlast
    exact ⟨_, _, h, h', rfl, hslashes _, hslashes _, hlast, hlast, hkinds, hevaluate⟩

/-- A minus that negates the first of two operands or their difference, and a regular expression
    that is divided or followed by a quotient. -/
theorem exists_display_eq_of_value_ne :
    (∃ e e', Spells "-1 - 2" e ∧ Spells "-(1 - 2)" e' ∧ e.display = e'.display ∧
      e.kinds ≠ e'.kinds ∧
      ∀ resolver, (e.evaluate (some resolver)).result = .ok (.ofInt (-3)) ∧
        (e'.evaluate (some resolver)).result = .ok (.ofInt 1)) ∧
    ∃ e e', Spells "/ / / 1 + 'x'" e ∧ Spells "/ / + 1 / 'x'" e' ∧ e.display = e'.display ∧
      e.kinds ≠ e'.kinds ∧
      ∀ resolver, (e.evaluate (some resolver)).result = .ok (.string "NaNx") ∧
        (e'.evaluate (some resolver)).result = .ok (.number .nan) := by
  let regexp : Operand := .regexp ⟨" ", .none, by decide⟩
  let negated : Tree := .binary ⟨.arithmetic .minus, rfl⟩ 3
    (.unary .minus 0 (.literal (.ofInt 1) 1)) (.literal (.ofInt 2) 5)
  let difference : Tree := .unary .minus 0 (.binary ⟨.arithmetic .minus, rfl⟩ 4
    (.literal (.ofInt 1) 2) (.literal (.ofInt 2) 6))
  let divided : Tree := .binary ⟨.arithmetic .plus, rfl⟩ 8
    (.binary ⟨.arithmetic .divide, rfl⟩ 4 (.literal regexp 0) (.literal (.ofInt 1) 6))
    (.literal (.string "x") 10)
  let quotient : Tree := .binary ⟨.arithmetic .plus, rfl⟩ 4 (.literal regexp 0)
    (.binary ⟨.arithmetic .divide, rfl⟩ 8 (.literal (.ofInt 1) 6) (.literal (.string "x") 10))
  have hnegated : ReadAs "-1 - 2" [⟨negation, 0⟩, ⟨.literal (.ofInt 1), 1⟩, ⟨subtraction, 3⟩,
      ⟨.literal (.ofInt 2), 5⟩] :=
    Lexer.tokensFrom_eq_cons rfl rfl <| Lexer.tokensFrom_eq_cons rfl rfl <|
      Lexer.tokensFrom_eq_cons rfl rfl <| Lexer.tokensFrom_eq_cons rfl rfl <|
        Lexer.tokensFrom_of_dropWhile_eq_nil rfl
  have hdifference : ReadAs "-(1 - 2)" [⟨negation, 0⟩, ⟨.leftParen, 1⟩, ⟨.literal (.ofInt 1), 2⟩,
      ⟨subtraction, 4⟩, ⟨.literal (.ofInt 2), 6⟩, ⟨.rightParen, 7⟩] :=
    Lexer.tokensFrom_eq_cons rfl rfl <| Lexer.tokensFrom_eq_cons rfl rfl <|
      Lexer.tokensFrom_eq_cons rfl rfl <| Lexer.tokensFrom_eq_cons rfl rfl <|
        Lexer.tokensFrom_eq_cons rfl rfl <| Lexer.tokensFrom_eq_cons rfl rfl <|
          Lexer.tokensFrom_of_dropWhile_eq_nil rfl
  have hdivided : ReadAs "/ / / 1 + 'x'" [⟨.literal regexp, 0⟩, ⟨division, 4⟩,
      ⟨.literal (.ofInt 1), 6⟩, ⟨.operator (.arithmetic .plus), 8⟩, ⟨.literal (.string "x"), 10⟩] :=
    Lexer.tokensFrom_eq_cons rfl rfl <| Lexer.tokensFrom_eq_cons rfl rfl <|
      Lexer.tokensFrom_eq_cons rfl rfl <| Lexer.tokensFrom_eq_cons rfl rfl <|
        Lexer.tokensFrom_eq_cons rfl rfl <| Lexer.tokensFrom_of_dropWhile_eq_nil rfl
  have hquotient : ReadAs "/ / + 1 / 'x'" [⟨.literal regexp, 0⟩,
      ⟨.operator (.arithmetic .plus), 4⟩, ⟨.literal (.ofInt 1), 6⟩, ⟨division, 8⟩,
      ⟨.literal (.string "x"), 10⟩] :=
    Lexer.tokensFrom_eq_cons rfl rfl <| Lexer.tokensFrom_eq_cons rfl rfl <|
      Lexer.tokensFrom_eq_cons rfl rfl <| Lexer.tokensFrom_eq_cons rfl rfl <|
        Lexer.tokensFrom_eq_cons rfl rfl <| Lexer.tokensFrom_of_dropWhile_eq_nil rfl
  have hthree : ArithmeticOperator.apply .minus (UnaryOperator.apply .minus (.ofInt 1)) (.ofInt 2) =
      .ofInt (-3) := by decide +kernel
  have hone : UnaryOperator.apply .minus (ArithmeticOperator.apply .minus (.ofInt 1) (.ofInt 2)) =
      .ofInt 1 := by decide +kernel
  have hword : ArithmeticOperator.apply .plus (ArithmeticOperator.apply .divide regexp (.ofInt 1))
      (.string "x") = .string "NaNx" := by decide +kernel
  have hnan : ArithmeticOperator.apply .plus regexp
      (ArithmeticOperator.apply .divide (.ofInt 1) (.string "x")) = .number .nan := by
    decide +kernel
  refine ⟨⟨⟨_, negated.preorder, none⟩, ⟨_, difference.preorder, none⟩,
    spells_of_readAs hnegated rfl (by decide +kernel),
    spells_of_readAs hdifference rfl (by decide +kernel), by decide +kernel, by decide,
    fun resolver => ⟨?_, ?_⟩⟩, ⟨_, divided.preorder, none⟩, ⟨_, quotient.preorder, none⟩,
    spells_of_readAs hdivided rfl (by decide +kernel),
    spells_of_readAs hquotient rfl (by decide +kernel), by decide +kernel, by decide,
    fun resolver => ⟨?_, ?_⟩⟩
  · rw [evaluate_tree, ← hthree]
    rfl
  · rw [evaluate_tree, ← hone]
    rfl
  · rw [evaluate_tree, ← hword]
    rfl
  · rw [evaluate_tree, ← hnan]
    rfl

end Expression

end ScalarExpr

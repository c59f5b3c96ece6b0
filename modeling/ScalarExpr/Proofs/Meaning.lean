import ScalarExpr.Proofs.Lexing
import ScalarExpr.Proofs.Offsets
import ScalarExpr.Proofs.Precedence
import ScalarExpr.Regex.Dialect
/-!
# The meaning of a written expression

The writing of a tree becomes a text when its tokens are written one after another
with separators between them. The text is read as these tokens, put in prefix order
as the preorder of the tree, and evaluated to the value of the tree.

## Main definitions

- `TokenKind.Readable` — tokens each of which can be read where it stands
- `Lexer.Spelled` — a text that is tokens with separators between them
- `Tree.Readable` — a tree with leaves that can be read
- `Tree.WrittenAs` — a text that writes a tree in parentheses
- `Tree.bracketed` — a writing with parentheses around every application

## Main statements

- `Lexer.tokensFrom_of_spelled`: a text is read as the tokens that it spells
- `Writing.relabel`: the offsets of the tokens are no part of the meaning
- `evaluateText_of_writtenAs`: a text that writes a tree has the value of the tree

## Design notes

The whole text stands in parentheses, so that no white space at its end is cut off
from a token: a variable may end in a blank that separates no tokens.
-/

namespace ScalarExpr

section

variable [Regex.Engine]

-- ════════════════════════════════════════════════════════════════════════
-- Texts that spell tokens
-- ════════════════════════════════════════════════════════════════════════

/-- Each token can be read in the state that the token before it leaves. -/
def TokenKind.Readable : Bool → List TokenKind → Prop
  | _, [] => True
  | operandExpected, kind :: kinds =>
    kind.ReadableIn operandExpected ∧ Readable kind.expectsOperand kinds

namespace Lexer

/-- The text is the writing of tokens, with white space or commas between each two
    of them. -/
inductive Spelled : List TokenKind → List Char → Prop where
  | single (kind : TokenKind) : Spelled [kind] kind.display.toList
  | cons {kinds : List TokenKind} {gap cs : List Char} (kind : TokenKind) (hgap : gap ≠ [])
    (hseparator : ∀ c ∈ gap, Text.isSeparator c) (behind : Spelled kinds cs) :
    Spelled (kind :: kinds) (kind.display.toList ++ (gap ++ cs))

theorem lexAll_display {operandExpected : Bool} {kinds : List TokenKind}
    (h : TokenKind.Readable operandExpected kinds) :
    LexAll operandExpected kinds (kinds.map fun kind => kind.display.toList) := by
  induction kinds generalizing operandExpected with
  | nil => exact .nil
  | cons kind kinds ih => exact .cons (lexesAs_display h.1) (ih h.2)

theorem Spelled.spaced {kinds : List TokenKind} {cs : List Char} (h : Spelled kinds cs) :
    Spaced (kinds.map fun kind => kind.display.toList) cs := by
  induction h with
  | single kind => exact .single _
  | @cons kinds gap cs kind hgap hseparator behind ih =>
    cases kinds with
    | nil => cases behind
    | cons next kinds => exact .cons _ hgap hseparator ih

/-- A text is read as the tokens that it spells. -/
theorem tokensFrom_of_spelled {operandExpected : Bool} {kinds : List TokenKind} {gap cs : List Char}
    (h : Spelled kinds cs) (hreadable : TokenKind.Readable operandExpected kinds)
    (hgap : ∀ c ∈ gap, Text.isSeparator c) (offset : Nat) :
    ∃ tokens, tokensFrom operandExpected offset (gap ++ cs) = .ok tokens ∧
      tokens.map Token.kind = kinds := by
  have hread := tokensFrom_of_lexAll (lexAll_display hreadable) h.spaced hgap
    (List.forall_mem_nil _) offset
  rwa [List.append_nil] at hread

/-- Tokens that are displayed are spelled, with a single space between each two. -/
theorem spelled_displayAll {tokens : List Token} (h : tokens ≠ []) :
    Spelled (tokens.map Token.kind) (Token.displayAll tokens).toList := by
  induction tokens with
  | nil => exact absurd rfl h
  | cons t tokens ih =>
    by_cases htokens : tokens = []
    · rw [htokens]
      exact .single t.kind
    · have hseparator : ∀ c ∈ [' '], Text.isSeparator c := fun c hc => List.mem_singleton.1 hc ▸ rfl
      have hbehind := ih htokens
      rw [Token.displayAll, String.toList_intercalate, List.map_map] at hbehind ⊢
      rw [List.map_cons, List.map_cons, List.intercalate_cons_of_ne_nil (by simpa using htokens),
        List.append_assoc]
      exact .cons t.kind (by decide) hseparator hbehind

theorem Spelled.exists_eq_append {kinds : List TokenKind} {kind : TokenKind} {cs : List Char}
    (h : Spelled (kinds ++ [kind]) cs) : ∃ front, cs = front ++ kind.display.toList := by
  generalize hall : kinds ++ [kind] = all at h
  induction h generalizing kinds with
  | single kind' =>
    obtain rfl : kind = kind' := by simpa using congrArg List.getLast? hall
    exact ⟨[], rfl⟩
  | @cons kinds' gap cs kind' _ _ behind ih =>
    cases kinds with
    | nil =>
      cases hall
      cases behind
    | cons head kinds =>
      obtain ⟨front, rfl⟩ := ih (List.cons.inj hall).2
      exact ⟨kind'.display.toList ++ (gap ++ front), by simp only [List.append_assoc]⟩

end Lexer

/-- A tree with leaves that are literals and variables of a text. -/
def Tree.Readable : Tree → Prop
  | .literal value _ => value.IsLiteral
  | .variable path _ => IsVariable path
  | .unary _ _ operand => operand.Readable
  | .binary _ _ left right => left.Readable ∧ right.Readable

/-- However a tree is written, each of its tokens can be read where it stands: it
    starts where an operand is expected and leaves none expected behind it. -/
theorem Writing.readable {grouped : Bool} {t : Tree} {tokens : List Token}
    (h : Writing grouped t tokens) (ht : t.Readable) {behind : List TokenKind}
    (hbehind : TokenKind.Readable false behind) :
    TokenKind.Readable true (tokens.map Token.kind ++ behind) := by
  induction h generalizing behind with
  | literal value offset => exact ⟨⟨ht, fun _ _ => rfl⟩, hbehind⟩
  | «variable» path offset => exact ⟨ht, hbehind⟩
  | unary op offset _ _ ih =>
    refine ⟨⟨fun _ => rfl, ?_⟩, ih ht hbehind⟩
    rintro (hop | hop) <;> cases hop
  | @binary _ _ l r leftTokens rightTokens op offset _ _ _ _ ihLeft ihRight =>
    have hop : (TokenKind.operator op.1).ReadableIn false :=
      ⟨fun hunary => absurd hunary (op.ne_unary .minus), fun _ => rfl⟩
    rw [List.map_append, List.append_assoc]
    exact ihLeft ht.1 ⟨hop, ihRight ht.2 hbehind⟩
  | group leftOffset rightOffset _ ih =>
    rw [List.map_append, List.append_assoc]
    exact ⟨trivial, ih ht ⟨trivial, hbehind⟩⟩

theorem Tree.needsGroup_congr {child child' : Tree} (h : child'.root? = child.root?)
    {parent : Operator} {side : Associativity} (hneeds : child'.NeedsGroup parent side) :
    child.NeedsGroup parent side := by
  rw [Tree.NeedsGroup, ← h]
  exact hneeds

/-- The same tokens at other offsets write a tree that differs in no more than the offsets. -/
theorem Writing.relabel {grouped : Bool} {t : Tree} {tokens tokens' : List Token}
    (h : Writing grouped t tokens) (hkinds : tokens'.map Token.kind = tokens.map Token.kind) :
    ∃ t', Writing grouped t' tokens' ∧ t'.root? = t.root? ∧
      t'.preorder.map Token.kind = t.preorder.map Token.kind := by
  induction h generalizing tokens' with
  | literal value offset =>
    obtain ⟨⟨_, offset'⟩, rfl, rfl⟩ := List.map_eq_singleton_iff.1 hkinds
    exact ⟨_, .literal value offset', rfl, rfl⟩
  | «variable» path offset =>
    obtain ⟨⟨_, offset'⟩, rfl, rfl⟩ := List.map_eq_singleton_iff.1 hkinds
    exact ⟨_, .variable path offset', rfl, rfl⟩
  | unary op offset _ group ih =>
    obtain ⟨⟨_, offset'⟩, operand, rfl, rfl, hoperand⟩ := List.map_eq_cons_iff.1 hkinds
    obtain ⟨x', hx', hroot, hpreorder⟩ := ih hoperand
    refine ⟨_, .unary op offset' hx' fun hneeds => group (Tree.needsGroup_congr hroot hneeds),
      rfl, ?_⟩
    rw [Tree.preorder, Tree.preorder, List.map_cons, List.map_cons, hpreorder]
  | binary op offset _ _ groupLeft groupRight ihLeft ihRight =>
    rw [List.map_append, List.map_cons] at hkinds
    obtain ⟨left, tail, rfl, hleft, htail⟩ := List.map_eq_append_iff.1 hkinds
    obtain ⟨⟨_, offset'⟩, right, rfl, rfl, hright⟩ := List.map_eq_cons_iff.1 htail
    obtain ⟨l', hl', hrootLeft, hpreorderLeft⟩ := ihLeft hleft
    obtain ⟨r', hr', hrootRight, hpreorderRight⟩ := ihRight hright
    refine ⟨_, .binary op offset' hl' hr'
      (fun hneeds => groupLeft (Tree.needsGroup_congr hrootLeft hneeds))
      (fun hneeds => groupRight (Tree.needsGroup_congr hrootRight hneeds)), rfl, ?_⟩
    simp only [Tree.preorder, List.map_cons, List.map_append, hpreorderLeft, hpreorderRight]
  | group leftOffset rightOffset _ ih =>
    rw [List.map_append, List.map_cons] at hkinds
    obtain ⟨front, last, rfl, hfront, hlast⟩ := List.map_eq_append_iff.1 hkinds
    obtain ⟨⟨_, leftOffset'⟩, inside, rfl, rfl, hinside⟩ := List.map_eq_cons_iff.1 hfront
    obtain ⟨⟨_, rightOffset'⟩, rfl, rfl⟩ := List.map_eq_singleton_iff.1 hlast
    obtain ⟨t', ht', hroot, hpreorder⟩ := ih hinside
    exact ⟨t', .group leftOffset' rightOffset' ht', hroot, hpreorder⟩

/-- Only an expression without a resolver reports an offset. -/
theorem Tree.value_eq_of_kinds {t t' : Tree}
    (h : t'.preorder.map Token.kind = t.preorder.map Token.kind) (resolver : Resolver) :
    t'.value (some resolver) = t.value (some resolver) := by
  rw [← evaluate_preorder, ← evaluate_preorder]
  exact evaluate_eq_of_kinds rfl h

-- ════════════════════════════════════════════════════════════════════════
-- Texts that write trees
-- ════════════════════════════════════════════════════════════════════════

/-- The text writes the tree in infix order, the whole of it in parentheses, with
    white space or commas between its tokens. -/
def Tree.WrittenAs (t : Tree) (text : String) : Prop :=
  ∃ tokens, Writing true t tokens ∧ Lexer.Spelled (tokens.map Token.kind) text.toList

/-- The tokens of a tree with parentheses around every application of an operator. -/
def Tree.bracketed : Tree → List TokenKind
  | .literal value _ => [.literal value]
  | .variable path _ => [.variable path]
  | .unary op _ operand =>
    .leftParen :: (.operator (.unary op) :: operand.bracketed ++ [.rightParen])
  | .binary op _ left right =>
    .leftParen :: (left.bracketed ++ .operator op.1 :: right.bracketed ++ [.rightParen])

theorem Writing.of_bracketed (t : Tree) :
    ∃ grouped tokens, Writing grouped t tokens ∧ tokens.map Token.kind = t.bracketed ∧
      (∀ op ∈ t.root?, grouped = true) := by
  induction t with
  | literal value offset => exact ⟨_, _, .literal value offset, rfl, fun _ h => nomatch h⟩
  | «variable» path offset => exact ⟨_, _, .variable path offset, rfl, fun _ h => nomatch h⟩
  | unary op offset x ih =>
    obtain ⟨grouped, tokens, hwriting, hkinds, hgrouped⟩ := ih
    have hx := Writing.unary op offset hwriting fun ⟨root, hroot, _⟩ => hgrouped root hroot
    exact ⟨_, _, .group 0 0 hx, by simp [Tree.bracketed, hkinds], fun _ _ => rfl⟩
  | binary op offset l r ihl ihr =>
    obtain ⟨groupedLeft, leftTokens, hleft, hkindsLeft, hgroupedLeft⟩ := ihl
    obtain ⟨groupedRight, rightTokens, hright, hkindsRight, hgroupedRight⟩ := ihr
    have happlication := Writing.binary op offset hleft hright
      (fun ⟨root, hroot, _⟩ => hgroupedLeft root hroot)
      (fun ⟨root, hroot, _⟩ => hgroupedRight root hroot)
    exact ⟨_, _, .group 0 0 happlication, by simp [Tree.bracketed, hkindsLeft, hkindsRight],
      fun _ _ => rfl⟩

/-- A text writes a tree if every application, and the whole, stands in parentheses.
    No more than one pair has to stand around an application that is the whole. -/
theorem Tree.writtenAs_of_bracketed {t : Tree} {text : String}
    (h : Lexer.Spelled (.leftParen :: (t.bracketed ++ [.rightParen])) text.toList ∨
      (∃ op, op ∈ t.root?) ∧ Lexer.Spelled t.bracketed text.toList) : t.WrittenAs text := by
  obtain ⟨grouped, tokens, hwriting, hkinds, hgrouped⟩ := Writing.of_bracketed t
  rcases h with h | ⟨⟨op, hop⟩, h⟩
  · refine ⟨_, .group 0 0 hwriting, ?_⟩
    rw [List.map_append, List.map_cons, hkinds]
    exact h
  · obtain rfl := hgrouped op hop
    exact ⟨tokens, hwriting, hkinds ▸ h⟩

theorem Tree.WrittenAs.trimEnd_eq {t : Tree} {text : String} (h : t.WrittenAs text) :
    Text.trimEnd text.toList = text.toList := by
  obtain ⟨tokens, hwriting, hspelled⟩ := h
  cases hwriting with
  | group leftOffset rightOffset inside =>
    rw [List.map_append] at hspelled
    obtain ⟨front, hfront⟩ := hspelled.exists_eq_append
    have hdisplay : TokenKind.rightParen.display.toList = [')'] := (rfl : ")".toList = [')'])
    rw [hdisplay] at hfront
    rw [hfront]
    have hparenthesis : ¬ Unicode.isBlank ')' := by decide
    exact Text.trimEnd_append_singleton hparenthesis front

/-- A text that writes a tree is parsed as a tree that differs from it in no more
    than the offsets. -/
theorem Tree.WrittenAs.exists_parse_eq {t : Tree} {text : String} (h : t.WrittenAs text)
    (ht : t.Readable) :
    ∃ t' : Tree, parse text = .ok t'.preorder ∧
      t'.preorder.map Token.kind = t.preorder.map Token.kind := by
  have htrim := h.trimEnd_eq
  obtain ⟨tokens, hwriting, hspelled⟩ := h
  -- the tokens that are read differ from those of the writing in their offsets
  have hend : TokenKind.Readable false [] := trivial
  have hreadable := hwriting.readable ht hend
  rw [List.append_nil] at hreadable
  have hgap : ∀ c ∈ ([] : List Char), Text.isSeparator c := List.forall_mem_nil _
  obtain ⟨tokens', htokens, hkinds⟩ := Lexer.tokensFrom_of_spelled hspelled hreadable hgap 0
  obtain ⟨t', hwriting', _, hpreorder⟩ := hwriting.relabel hkinds
  refine ⟨t', ?_, hpreorder⟩
  rw [parse, htrim]
  rw [List.nil_append] at htokens
  rw [htokens]
  exact PrefixOrder.toPrefix_eq_ok_iff.2 hwriting'.orderFrom?

theorem Tree.WrittenAs.parse_eq {t : Tree} {text : String} (h : t.WrittenAs text)
    (ht : t.Readable) (resolver : Resolver) :
    ∃ t' : Tree, parse text = .ok t'.preorder ∧
      t'.value (some resolver) = t.value (some resolver) := by
  obtain ⟨t', hparse, hkinds⟩ := h.exists_parse_eq ht
  exact ⟨t', hparse, Tree.value_eq_of_kinds hkinds resolver⟩

/-- A text that writes a tree has the value of the tree, and comes to it by asking
    for the same variables in the same order. -/
theorem evaluateText_of_writtenAs {t : Tree} {text : String} (h : t.WrittenAs text)
    (ht : t.Readable) (resolver : Resolver) :
    evaluateText text { resolver := some resolver } = t.value (some resolver) := by
  obtain ⟨t', hparse, hvalue⟩ := h.parse_eq ht resolver
  rw [evaluateText, hparse, ← hvalue]
  exact evaluate_preorder (some resolver) t'

end

theorem evaluateText_of_writtenAs_matching :
    evaluateText "( ( x =~ /a/ ) && ( ! ( - 0 ) ) )"
      { resolver := some fun _ => .ok (.string "cat") } = ⟨["x"], .ok (.boolean true)⟩ := by
  let t : Tree := .binary ⟨.logical .and, rfl⟩ 0
    (.binary ⟨.comparison .regexMatch, rfl⟩ 0 (.variable "x" 0)
      (.literal (.regexp ⟨"a", .none, by decide⟩) 0))
    (.unary .not 0 (.unary .minus 0 (.literal (.number (.finite false ⟨0, representable_zero⟩)) 0)))
  have hne : t.bracketed.map (fun kind => (⟨kind, 0⟩ : Token)) ≠ [] := by decide
  have hwritten : t.WrittenAs "( ( x =~ /a/ ) && ( ! ( - 0 ) ) )" :=
    Tree.writtenAs_of_bracketed (.inr ⟨⟨_, rfl⟩, Lexer.spelled_displayAll hne⟩)
  have hvariable : IsVariable "x" := by
    have hread : Lexer.readToken true 'x' [] = .ok (.variable "x", []) := rfl
    refine ⟨"x", 0, ?_⟩
    rw [tokenize, Lexer.tokensFrom_of_readToken rfl hread,
      Lexer.tokensFrom_of_dropWhile_eq_nil rfl]
    rfl
  have hreadable : t.Readable := ⟨⟨hvariable, "a/".toList, [], rfl⟩, _, rfl⟩
  exact evaluateText_of_writtenAs hwritten hreadable _

end ScalarExpr

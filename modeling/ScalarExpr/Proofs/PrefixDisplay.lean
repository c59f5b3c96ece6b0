import Mathlib.Algebra.GroupWithZero.Nat
import ScalarExpr.Proofs.Canonical
import ScalarExpr.Proofs.Tree
/-!
# What a display in prefix order tells

Tokens in prefix order are displayed one after another, without parentheses. Two spellings are
ambiguous there. A minus is a negation or a subtraction, and what stands before it no longer tells
which: one operand more or less may be taken up elsewhere. And a regular expression whose source
starts with a space starts like a division with a space behind it. All else can be told from the
display.

## Main definitions

- `TokenKind.outline` — a kind of token, with a minus left open
- `TokenKind.IsSpacedRegexp` — a literal that starts like a division
- `SlashesDiffer` — a division in the place of such a literal
- `NegationsLast` — no negation stands before a subtraction

## Main statements

- `TokenKind.outline_eq_of_display`: two tokens at the same place of a display
- `map_outline_eq_of_displayBehind`: the display tells all but what a minus or a slash is
- `count_negation_eq`: the outline of an expression tells how many minuses are negations
- `eq_of_negationsLast`: and if these come last, it tells all

## Design notes

A token in prefix order could be read where it stood in the text, and so in one of both states.
Two tokens that display alike are the same where there is a state in which both can be read.
-/

namespace ScalarExpr

variable [Regex.Engine]

namespace TokenKind

/-- A minus with one operand. -/
def negation : TokenKind := .operator (.unary .minus)

/-- A minus with two operands. -/
def subtraction : TokenKind := .operator (.arithmetic .minus)

def division : TokenKind := .operator (.arithmetic .divide)

/-- The kind of a token, as far as it does not depend on the operands of a minus. -/
def outline : TokenKind → TokenKind
  | .operator (.unary .minus) => subtraction
  | kind => kind

/-- A literal whose source starts with a space. -/
def IsSpacedRegexp (kind : TokenKind) : Prop :=
  ∃ r, kind = .literal (.regexp r) ∧ r.source.toList.head? = some ' '

/-- How many expressions have to follow. -/
def operandCount : TokenKind → Nat
  | .operator op => op.arity
  | _ => 0

end TokenKind

open TokenKind

/-- No negation stands before a subtraction. -/
def NegationsLast (kinds : List TokenKind) : Prop :=
  kinds.Pairwise fun earlier later => earlier = negation → later ≠ subtraction

instance : DecidablePred NegationsLast := fun kinds =>
  inferInstanceAs (Decidable (kinds.Pairwise fun earlier later =>
    earlier = negation → later ≠ subtraction))

/-- The first kinds have a division where the second ones have a literal that starts like one,
    and differ before that in no more than what a minus is. -/
def SlashesDiffer (kinds kinds' : List TokenKind) : Prop :=
  ∃ front front' literal behind behind', kinds = front ++ division :: behind ∧
    kinds' = front' ++ literal :: behind' ∧ front.map outline = front'.map outline ∧
    literal.IsSpacedRegexp

-- ════════════════════════════════════════════════════════════════════════
-- Tokens that display alike
-- ════════════════════════════════════════════════════════════════════════

namespace TokenKind

variable {kind kind' : TokenKind} {rest rest' : List Char}

/-- What needs an operand to be expected is a negation or a literal between slashes. -/
theorem ReadableIn.false_or (h : kind.ReadableIn true) :
    kind.ReadableIn false ∨ kind = negation ∨ ∃ r, kind = .literal (.regexp r) := by
  cases kind with
  | literal value =>
    by_cases hregexp : ∃ r, value = .regexp r
    · obtain ⟨r, rfl⟩ := hregexp
      exact .inr (.inr ⟨r, rfl⟩)
    · exact .inl ⟨h.1, fun r hr => absurd ⟨r, hr⟩ hregexp⟩
  | operator op =>
    by_cases hop : op = .unary .minus
    · exact .inr (.inl (congrArg _ hop))
    · exact .inl ⟨fun hminus => absurd hminus hop, fun _ => rfl⟩
  | leftParen | rightParen | «variable» => exact .inl h

/-- What needs no operand to be expected is a subtraction or a division. -/
theorem ReadableIn.true_or (h : kind.ReadableIn false) :
    kind.ReadableIn true ∨ kind = subtraction ∨ kind = division := by
  cases kind with
  | literal value => exact .inl ⟨h.1, fun _ _ => rfl⟩
  | operator op =>
    by_cases hminus : op = .arithmetic .minus
    · exact .inr (.inl (congrArg _ hminus))
    by_cases hdivide : op = .arithmetic .divide
    · exact .inr (.inr (congrArg _ hdivide))
    · exact .inl ⟨fun _ => rfl, fun hop => absurd hop (not_or.2 ⟨hminus, hdivide⟩)⟩
  | leftParen | rightParen | «variable» => exact .inl h

/-- In one state a text is read as one token. -/
theorem eq_of_display {operandExpected : Bool} (h : kind.ReadableIn operandExpected)
    (h' : kind'.ReadableIn operandExpected) (hrest : Lexer.Separated rest)
    (hrest' : Lexer.Separated rest')
    (hdisplay : kind.display.toList ++ rest = kind'.display.toList ++ rest') :
    kind = kind' ∧ rest = rest' := by
  obtain ⟨c, tail, hc, _, hread⟩ := Lexer.lexesAs_display h
  obtain ⟨c', tail', hc', _, hread'⟩ := Lexer.lexesAs_display h'
  rw [hc, hc', List.cons_append, List.cons_append, List.cons.injEq] at hdisplay
  obtain ⟨rfl, htail⟩ := hdisplay
  have hsame := hread rest hrest
  rw [htail, hread' rest' hrest'] at hsame
  cases hsame
  exact ⟨rfl, rfl⟩

omit [Regex.Engine] in
/-- The first character of a displayed source is a space if that of the source is. -/
theorem head?_source_of_escapeSlashes {source behind rest : List Char}
    (hrest : ∀ c ∈ rest.head?, c = ' ')
    (h : Regexp.escapeSlashes source ++ '/' :: behind = rest) : source.head? = some ' ' := by
  subst h
  cases source with
  | nil => exact absurd (hrest '/' rfl) (by decide)
  | cons c source =>
    by_cases hslash : c = '/'
    · rw [hslash, Lexer.escapeSlashes_slash] at hrest
      exact absurd (hrest '\\' rfl) (by decide)
    · rw [Lexer.escapeSlashes_cons_of_ne hslash] at hrest
      exact congrArg some (hrest c rfl)

theorem display_negation : negation.display.toList = ['-'] :=
  (rfl : "-".toList = ['-'])

theorem display_subtraction : subtraction.display.toList = ['-'] :=
  (rfl : "-".toList = ['-'])

theorem display_division : division.display.toList = ['/'] :=
  (rfl : "/".toList = ['/'])

theorem display_regexp (r : Regexp) : (literal (.regexp r)).display.toList =
    '/' :: Regexp.escapeSlashes r.source.toList ++ '/' :: r.flags.letters := by
  rw [TokenKind.display, Operand.display, Regexp.display, String.toList_ofList]

/-- Where an operand is expected for the first token only, both start with a minus or a slash. -/
theorem outline_eq_of_true_of_false (h : kind.ReadableIn true) (h' : kind'.ReadableIn false)
    (hrest : ∀ c ∈ rest.head?, c = ' ') (hrest' : ∀ c ∈ rest'.head?, c = ' ')
    (hdisplay : kind.display.toList ++ rest = kind'.display.toList ++ rest') :
    (kind.outline = kind'.outline ∧ rest = rest') ∨ kind' = division ∧ kind.IsSpacedRegexp := by
  have hseparated : Lexer.Separated rest := fun c hc => hrest c hc ▸ rfl
  have hseparated' : Lexer.Separated rest' := fun c hc => hrest' c hc ▸ rfl
  rcases h'.true_or with htrue | hkind'
  · obtain ⟨rfl, rfl⟩ := eq_of_display h htrue hseparated hseparated' hdisplay
    exact .inl ⟨rfl, rfl⟩
  rcases h.false_or with hfalse | rfl | ⟨r, rfl⟩
  · obtain ⟨rfl, rfl⟩ := eq_of_display hfalse h' hseparated hseparated' hdisplay
    exact .inl ⟨rfl, rfl⟩
  · rcases hkind' with rfl | rfl
    · exact .inl ⟨rfl, List.append_cancel_left hdisplay⟩
    · rw [display_negation, display_division] at hdisplay
      exact absurd (List.cons.inj hdisplay).1 (by decide)
  · rcases hkind' with rfl | rfl
    · rw [display_regexp, display_subtraction] at hdisplay
      exact absurd (List.cons.inj hdisplay).1 (by decide)
    · rw [display_regexp, display_division, List.append_assoc] at hdisplay
      have hsource := head?_source_of_escapeSlashes hrest' (List.cons.inj hdisplay).2
      exact .inr ⟨rfl, r, rfl, hsource⟩

/-- Two tokens that display alike are the same, or both are a minus, or one is a division and
    the other a literal that starts like one. -/
theorem outline_eq_of_display (h : ∃ operandExpected, kind.ReadableIn operandExpected)
    (h' : ∃ operandExpected, kind'.ReadableIn operandExpected)
    (hrest : ∀ c ∈ rest.head?, c = ' ') (hrest' : ∀ c ∈ rest'.head?, c = ' ')
    (hdisplay : kind.display.toList ++ rest = kind'.display.toList ++ rest') :
    (kind.outline = kind'.outline ∧ rest = rest') ∨ (kind = division ∧ kind'.IsSpacedRegexp) ∨
      kind' = division ∧ kind.IsSpacedRegexp := by
  obtain ⟨operandExpected, h⟩ := h
  obtain ⟨operandExpected', h'⟩ := h'
  by_cases hstate : operandExpected = operandExpected'
  · subst hstate
    obtain ⟨rfl, rfl⟩ := eq_of_display h h' (fun c hc => hrest c hc ▸ rfl)
      (fun c hc => hrest' c hc ▸ rfl) hdisplay
    exact .inl ⟨rfl, rfl⟩
  cases operandExpected with
  | true =>
    obtain rfl : operandExpected' = false := by simpa using hstate
    exact (outline_eq_of_true_of_false h h' hrest hrest' hdisplay).imp_right .inr
  | false =>
    obtain rfl : operandExpected' = true := by simpa using hstate
    rcases outline_eq_of_true_of_false h' h hrest' hrest hdisplay.symm with
      ⟨houtline, hbehind⟩ | hslash
    · exact .inl ⟨houtline.symm, hbehind.symm⟩
    · exact .inr (.inl hslash)

end TokenKind

-- ════════════════════════════════════════════════════════════════════════
-- Lists that display alike
-- ════════════════════════════════════════════════════════════════════════

/-- The display of kinds, each with a space before it. -/
def displayBehind (kinds : List TokenKind) : List Char :=
  kinds.flatMap fun kind => ' ' :: kind.display.toList

theorem displayBehind_cons (kind : TokenKind) (kinds : List TokenKind) :
    displayBehind (kind :: kinds) = ' ' :: (kind.display.toList ++ displayBehind kinds) := rfl

theorem head?_displayBehind (kinds : List TokenKind) :
    ∀ c ∈ (displayBehind kinds).head?, c = ' ' := by
  cases kinds with
  | nil => exact fun c hc => nomatch hc
  | cons kind kinds =>
    rintro _ ⟨⟩
    rfl

theorem displayBehind_eq {tokens : List Token} (h : tokens ≠ []) :
    displayBehind (tokens.map Token.kind) = ' ' :: (Token.displayAll tokens).toList := by
  rw [Token.displayAll, String.toList_intercalate, List.map_map]
  induction tokens with
  | nil => exact absurd rfl h
  | cons t tokens ih =>
    rw [List.map_cons, List.map_cons, displayBehind_cons]
    by_cases htokens : tokens = []
    · rw [htokens, List.map_nil, List.map_nil, List.intercalate_singleton]
      exact congrArg _ (List.append_nil _)
    · rw [ih htokens, List.intercalate_cons_of_ne_nil (by simpa using htokens), List.append_assoc]
      rfl

theorem SlashesDiffer.of_head {kind kind' : TokenKind} (hkind : kind = division)
    (hkind' : kind'.IsSpacedRegexp) (kinds kinds' : List TokenKind) :
    SlashesDiffer (kind :: kinds) (kind' :: kinds') :=
  ⟨[], [], kind', kinds, kinds', by rw [hkind]; rfl, rfl, rfl, hkind'⟩

theorem SlashesDiffer.cons {kind kind' : TokenKind} {kinds kinds' : List TokenKind}
    (houtline : kind.outline = kind'.outline) (h : SlashesDiffer kinds kinds') :
    SlashesDiffer (kind :: kinds) (kind' :: kinds') := by
  obtain ⟨front, front', literal, behind, behind', rfl, rfl, hfront, hliteral⟩ := h
  refine ⟨kind :: front, kind' :: front', literal, behind, behind', rfl, rfl, ?_, hliteral⟩
  rw [List.map_cons, List.map_cons, houtline, hfront]

/-- The display of tokens tells their kinds, except for what a minus is, as far as no division
    is taken for a literal. -/
theorem map_outline_eq_of_displayBehind {kinds kinds' : List TokenKind}
    (h : ∀ kind ∈ kinds, ∃ operandExpected, kind.ReadableIn operandExpected)
    (h' : ∀ kind ∈ kinds', ∃ operandExpected, kind.ReadableIn operandExpected)
    (hdisplay : displayBehind kinds = displayBehind kinds') :
    kinds.map outline = kinds'.map outline ∨ SlashesDiffer kinds kinds' ∨
      SlashesDiffer kinds' kinds := by
  induction kinds generalizing kinds' with
  | nil =>
    cases kinds' with
    | nil => exact .inl rfl
    | cons => cases hdisplay
  | cons kind kinds ih =>
    cases kinds' with
    | nil => cases hdisplay
    | cons kind' kinds' =>
      rw [displayBehind_cons, displayBehind_cons] at hdisplay
      obtain ⟨hreadable, hothers⟩ := List.forall_mem_cons.1 h
      obtain ⟨hreadable', hothers'⟩ := List.forall_mem_cons.1 h'
      rcases outline_eq_of_display hreadable hreadable' (head?_displayBehind _)
        (head?_displayBehind _) (List.cons.inj hdisplay).2 with
        ⟨houtline, hbehind⟩ | ⟨hkind, hkind'⟩ | ⟨hkind', hkind⟩
      · rcases ih hothers hothers' hbehind with hsame | hslash | hslash
        · exact .inl (by rw [List.map_cons, List.map_cons, houtline, hsame])
        · exact .inr (.inl (hslash.cons houtline))
        · exact .inr (.inr (hslash.cons houtline.symm))
      · exact .inr (.inl (SlashesDiffer.of_head hkind hkind' kinds kinds'))
      · exact .inr (.inr (SlashesDiffer.of_head hkind' hkind kinds' kinds))

-- ════════════════════════════════════════════════════════════════════════
-- Negations and subtractions
-- ════════════════════════════════════════════════════════════════════════

/-- In one expression each token but the first one is an operand of another. -/
theorem Tree.sum_operandCount (t : Tree) :
    ((t.preorder.map Token.kind).map operandCount).sum + 1 = t.preorder.length := by
  induction t with
  | literal | «variable» => rfl
  | unary op offset x ih =>
    simp only [preorder, List.map_cons, List.sum_cons, List.length_cons, operandCount,
      Operator.arity_unary]
    omega
  | binary op offset l r ihl ihr =>
    simp only [preorder, List.map_cons, List.map_append, List.sum_cons, List.sum_append,
      List.length_cons, List.length_append, operandCount, op.2]
    omega

theorem operandCount_outline (kind : TokenKind) :
    kind.outline.operandCount = kind.operandCount + if kind = negation then 1 else 0 := by
  unfold outline
  split
  · rfl
  · rename_i hkind
    rw [if_neg fun h : kind = negation => hkind h, Nat.add_zero]

theorem sum_operandCount_outline (kinds : List TokenKind) :
    ((kinds.map outline).map operandCount).sum =
      (kinds.map operandCount).sum + kinds.count negation := by
  induction kinds with
  | nil => rfl
  | cons kind kinds ih =>
    simp only [List.map_cons, List.sum_cons, operandCount_outline, ih, List.count_cons, beq_iff_eq]
    omega

/-- Expressions that differ in what a minus is have as many negations. -/
theorem count_negation_eq {t t' : Tree}
    (h : (t.preorder.map Token.kind).map outline = (t'.preorder.map Token.kind).map outline) :
    (t.preorder.map Token.kind).count negation = (t'.preorder.map Token.kind).count negation := by
  have hlength := congrArg List.length h
  simp only [List.length_map] at hlength
  have hsum := congrArg (fun kinds => (kinds.map operandCount).sum) h
  simp only [sum_operandCount_outline] at hsum
  have := t.sum_operandCount
  have := t'.sum_operandCount
  omega

theorem count_outline (kinds : List TokenKind) :
    (kinds.map outline).count subtraction = kinds.count negation + kinds.count subtraction := by
  induction kinds with
  | nil => rfl
  | cons kind kinds ih =>
    have hkind : (if kind.outline = subtraction then 1 else 0) =
        (if kind = negation then 1 else 0) + if kind = subtraction then 1 else 0 := by
      unfold outline
      split
      · rfl
      · rename_i hkind
        rw [if_neg fun h : kind = negation => hkind h, Nat.zero_add]
    simp only [List.map_cons, List.count_cons, beq_iff_eq, ih, hkind]
    omega

theorem eq_or_minus_of_outline_eq {kind kind' : TokenKind} (h : kind.outline = kind'.outline) :
    kind = kind' ∨ (kind = negation ∧ kind' = subtraction) ∨
      kind = subtraction ∧ kind' = negation := by
  unfold outline at h
  split at h <;> split at h
  · exact .inl rfl
  · exact .inr (.inl ⟨rfl, h.symm⟩)
  · exact .inr (.inr ⟨h, rfl⟩)
  · exact .inl h

/-- If no subtraction is left, each minus is a negation, and the other list is short of one. -/
theorem count_ne_of_negationsLast {kinds kinds' : List TokenKind}
    (houtline : kinds.map outline = kinds'.map outline)
    (hlast : NegationsLast (negation :: kinds)) :
    (negation :: kinds).count negation ≠ (subtraction :: kinds').count negation := by
  have hnone : kinds.count subtraction = 0 :=
    List.count_eq_zero.2 fun hmem => (List.pairwise_cons.1 hlast).1 _ hmem rfl rfl
  have hcount := congrArg (List.count subtraction) houtline
  rw [count_outline, count_outline] at hcount
  have hne : (subtraction == negation) = false := rfl
  simp only [List.count_cons, hne, beq_self_eq_true, if_true, Bool.false_eq_true, if_false]
  omega

/-- As many negations, all of them last, stand at the same places. -/
theorem eq_of_negationsLast {kinds kinds' : List TokenKind}
    (houtline : kinds.map outline = kinds'.map outline)
    (hcount : kinds.count negation = kinds'.count negation)
    (hlast : NegationsLast kinds) (hlast' : NegationsLast kinds') : kinds = kinds' := by
  induction kinds generalizing kinds' with
  | nil => exact (List.map_eq_nil_iff.1 houtline.symm).symm
  | cons kind kinds ih =>
    cases kinds' with
    | nil => cases houtline
    | cons kind' kinds' =>
      obtain ⟨hkind, hkinds⟩ := List.cons.inj houtline
      rcases eq_or_minus_of_outline_eq hkind with rfl | ⟨rfl, rfl⟩ | ⟨rfl, rfl⟩
      · have hothers : kinds.count negation = kinds'.count negation := by
          simp only [List.count_cons] at hcount
          omega
        rw [ih hkinds hothers (List.pairwise_cons.1 hlast).2 (List.pairwise_cons.1 hlast').2]
      · exact absurd hcount (count_ne_of_negationsLast hkinds hlast)
      · exact absurd hcount.symm (count_ne_of_negationsLast hkinds.symm hlast')

end ScalarExpr

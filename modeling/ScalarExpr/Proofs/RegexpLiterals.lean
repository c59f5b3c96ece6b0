import ScalarExpr.Proofs.Canonical
import ScalarExpr.Proofs.Operands
import ScalarExpr.Proofs.Sentences
/-!
# Regular expressions written as literals

A regular expression is shown as a literal, with a backslash before each slash of
its source. The reader of literals takes a backslash together with the character
after it. In a source in which a backslash takes a slash along, the backslash that
is put before this slash belongs to the one that stands there already, and the
slash ends the literal. A backslash at the end of a source, if it takes nothing
along there, takes the closing slash along. All other sources are read back,
whatever engine compiles them.

## Main definitions

- `Regex.Engine.RefusesOpenEnd` — an engine that refuses such an end

## Main statements

- `Lexer.isWritable_of_tokensFrom`: the literals of a text can be written again
- `Tree.mem_preorder_of_value`: a value that is a regular expression is a literal
- `Regexp.readBack_iff`: which regular expressions are read back
-/

namespace ScalarExpr

-- ════════════════════════════════════════════════════════════════════════
-- Patterns and their sources
-- ════════════════════════════════════════════════════════════════════════

namespace Regex

theorem isPaired_append {front : List Char} (h : '\\' ∉ front) (cs : List Char) :
    isPaired (front ++ cs) = isPaired cs := by
  induction front with
  | nil => rfl
  | cons c front ih =>
    obtain ⟨hc, hfront⟩ := not_or.1 (mt List.mem_cons.2 h)
    rw [List.cons_append, isPaired_cons (Ne.symm hc), ih hfront]

theorem Flags.letters_sublist (flags : Flags) :
    flags.letters.Sublist ['i', 'm', 's', 'U'] := by
  obtain ⟨ignoreCase, multiLine, dotAll, ungreedy⟩ := flags
  cases ignoreCase <;> cases multiLine <;> cases dotAll <;> cases ungreedy <;> decide

/-- Flags do not change what the backslashes of a source take along. -/
theorem isPaired_patternOf (source : String) (flags : Flags) :
    isPaired (patternOf source flags).toList = isPaired source.toList := by
  unfold patternOf
  split
  · rfl
  · have hfront := (flags.letters_sublist.append_left "(?".toList).append_right ")".toList
    have hletters : '\\' ∉ "(?".toList ++ flags.letters ++ ")".toList := fun hmem =>
      absurd (hfront.subset hmem) (by decide)
    rw [String.toList_append, String.toList_append, String.toList_append,
      String.toList_ofList (l := flags.letters)]
    exact isPaired_append hletters _

/-- A pattern that ends in a backslash which takes no character along is refused. -/
def Engine.RefusesOpenEnd [Engine] : Prop :=
  ∀ pattern, Engine.accepts pattern → isPaired pattern.toList

end Regex

section

variable [Regex.Engine]

theorem Regexp.isWritable_iff (hengine : Regex.Engine.RefusesOpenEnd) (r : Regexp) :
    r.IsWritable ↔ '/' ∉ Regex.escaped r.source.toList := by
  have hpaired := hengine _ r.accepted
  rw [Regex.isPaired_patternOf] at hpaired
  exact ⟨fun h => h.slashesBare, fun h => ⟨hpaired, h⟩⟩

-- ════════════════════════════════════════════════════════════════════════
-- From a text to its literals
-- ════════════════════════════════════════════════════════════════════════

namespace Lexer

variable {operandExpected : Bool} {offset : Nat} {cs : List Char} {tokens : List Token}

theorem exists_readToken_of_mem {t : Token} (h : tokensFrom operandExpected offset cs = .ok tokens)
    (ht : t ∈ tokens) : ∃ expected c tail rest, readToken expected c tail = .ok (t.kind, rest) := by
  induction tokens generalizing operandExpected offset cs with
  | nil => cases ht
  | cons first tokens ih =>
    rcases exists_readToken_of_tokensFrom h with
      ⟨_, hnil⟩ | ⟨c, tail, kind, rest, start, offset', tokens', _, hread, htokens, heq⟩
    · cases hnil
    · cases heq
      rcases List.mem_cons.1 ht with rfl | ht
      · exact ⟨_, c, tail, rest, hread⟩
      · exact ih htokens ht

/-- A literal of a text can be written again. -/
theorem isWritable_of_tokensFrom {t : Token} {r : Regexp}
    (h : tokensFrom operandExpected offset cs = .ok tokens) (ht : t ∈ tokens)
    (hr : t.kind = .literal (.regexp r)) : r.IsWritable := by
  obtain ⟨expected, c, tail, rest, hread⟩ := exists_readToken_of_mem h ht
  rw [hr] at hread
  obtain ⟨⟨body, behind, hregexp⟩, _⟩ := readableIn_of_readToken hread (by rintro n ⟨⟩)
  exact isWritable_of_readRegexp hregexp

end Lexer

-- ════════════════════════════════════════════════════════════════════════
-- From a value to its literal
-- ════════════════════════════════════════════════════════════════════════

theorem UnaryOperator.apply_ne_regexp (op : UnaryOperator) (x : Operand) (r : Regexp) :
    op.apply x ≠ .regexp r := by
  cases op <;> exact fun h => nomatch h

theorem Operand.plus_ne_regexp (left right : Operand) (r : Regexp) :
    left.plus right ≠ .regexp r := by
  cases left <;> cases right <;> exact fun h => nomatch h

theorem Operator.applyBinary_ne_regexp (op : Operator) (left right : Operand) (r : Regexp) :
    op.applyBinary left right ≠ .ok (.regexp r) := by
  cases op with
  | arithmetic op =>
    cases op with
    | plus => exact fun h => left.plus_ne_regexp right r (Except.ok.inj h)
    | minus | multiply | divide | remainder | power => exact fun h => nomatch h
  | bitwise | comparison | logical | unary => exact fun h => nomatch h

/-- No operator makes a regular expression: without variables, one that a tree comes
    to is a literal of the tree. -/
theorem Tree.mem_preorder_of_value {t : Tree} {r : Regexp}
    (h : (t.value none).result = .ok (.regexp r)) :
    .literal (.regexp r) ∈ t.preorder.map Token.kind := by
  induction t with
  | literal value offset =>
    cases h
    exact List.mem_cons_self
  | «variable» path offset => cases h
  | unary op offset x ih =>
    obtain ⟨value, _, hvalue⟩ := Run.result_bind_eq_ok_iff.1 h
    exact absurd (Except.ok.inj hvalue) (op.apply_ne_regexp value r)
  | binary op offset left right ihLeft ihRight =>
    rw [preorder, List.map_cons, List.map_append]
    by_cases hop : ∃ logical, op.1 = .logical logical
    · obtain ⟨logical, hop⟩ := hop
      rw [value_logical none hop] at h
      obtain ⟨l, hl, h⟩ := Run.result_bind_eq_ok_iff.1 h
      split at h
      · cases h
        exact List.mem_cons_of_mem _ (List.mem_append_left _ (ihLeft hl))
      · exact List.mem_cons_of_mem _ (List.mem_append_right _ (ihRight h))
    · rw [value_binary none fun logical hlogical => hop ⟨logical, hlogical⟩] at h
      obtain ⟨l, _, h⟩ := Run.result_bind_eq_ok_iff.1 h
      obtain ⟨r', _, h⟩ := Run.result_bind_eq_ok_iff.1 h
      exact absurd h (op.1.applyBinary_ne_regexp l r' r)

/-- A regular expression that a text comes to without variables is a literal of it. -/
theorem isWritable_of_evaluateText {text : String} {r : Regexp}
    (h : (evaluateText text {}).result = .ok (.regexp r)) : r.IsWritable := by
  obtain ⟨tree, hparse, hvalue⟩ := exists_preorder_of_evaluateText h
  obtain ⟨tokens, htokens, hprefix⟩ := exists_readAs_of_parse hparse
  obtain ⟨t, ht, hkind⟩ := List.mem_map.1 (Tree.mem_preorder_of_value hvalue)
  have hoperand : t ∈ operands tokens := by
    rw [← operands_of_toPrefix hprefix]
    exact List.mem_filter.2 ⟨ht, by rw [hkind]; rfl⟩
  exact Lexer.isWritable_of_tokensFrom htokens (List.mem_filter.1 hoperand).1 hkind

-- ════════════════════════════════════════════════════════════════════════
-- From a regular expression to its literal and back
-- ════════════════════════════════════════════════════════════════════════

theorem evaluate_literal (value : Operand) (offset : Nat) (context : Evaluator.Context) :
    evaluate [⟨.literal value, offset⟩] context = pure value := by
  rw [evaluate_eq_reduceHead, Evaluator.reduceHead_literal, pure_bind]
  rfl

namespace Regexp

variable {r : Regexp}

/-- No white space is cut off from a literal. -/
theorem trimEnd_display (r : Regexp) : Text.trimEnd r.display.toList = r.display.toList := by
  have hblank : ['/', 'i', 'm', 's', 'U'].all fun c => !Unicode.isBlank c := by decide
  have hletters : ∀ c ∈ '/' :: r.flags.letters, ¬ Unicode.isBlank c := by
    intro c hc
    have hmem := (r.flags.letters_sublist.cons_cons '/').subset hc
    simpa using List.all_eq_true.1 hblank c hmem
  rw [display, String.toList_ofList]
  exact Text.trimEnd_append (List.cons_ne_nil _ _) hletters _

theorem tokenize_display (h : r.IsWritable) :
    tokenize r.display = .ok [⟨.literal (.regexp r), 0⟩] :=
  Lexer.tokensFrom_lone (Lexer.lexesAs_regexp h) 0

theorem evaluateText_display (h : r.IsWritable) (context : Evaluator.Context) :
    evaluateText r.display context = pure (.regexp r) := by
  have hparse : parse r.display = .ok [⟨.literal (.regexp r), 0⟩] := by
    have htokens : ReadAs r.display [⟨.literal (.regexp r), 0⟩] := by
      rw [ReadAs, trimEnd_display]
      exact tokenize_display h
    rw [htokens.parse_eq]
    rfl
  rw [evaluateText, hparse]
  exact evaluate_literal _ 0 context

/-- A regular expression is the one token of its own literal, and the value of that literal,
    exactly if its source can be written. By an engine that refuses sources with an open end,
    that is if no backslash of its source takes a slash along. -/
theorem readBack_iff (r : Regexp) :
    (∀ offset, tokenize r.display = .ok [⟨.literal (.regexp r), offset⟩] ↔
      r.IsWritable ∧ offset = 0) ∧
    ((evaluateText r.display {}).result = .ok (.regexp r) ↔ r.IsWritable) ∧
    (Regex.Engine.RefusesOpenEnd → (r.IsWritable ↔ '/' ∉ Regex.escaped r.source.toList)) := by
  refine ⟨fun offset => ⟨fun h => ?_, ?_⟩, ⟨isWritable_of_evaluateText, fun h => ?_⟩,
    fun hengine => r.isWritable_iff hengine⟩
  · have hwritable := Lexer.isWritable_of_tokensFrom h List.mem_cons_self rfl
    rw [tokenize_display hwritable] at h
    cases h
    exact ⟨hwritable, rfl⟩
  · rintro ⟨hwritable, rfl⟩
    exact tokenize_display hwritable
  · rw [evaluateText_display h]
    rfl

end Regexp

end

namespace Regexp

/-- The source of a backslash and a slash is shown as a literal that holds two backslashes,
    with a division behind it. The engine here knows these two sources only. -/
theorem tokenize_display_ne :
    ¬ ∀ [Regex.Engine], Regex.Engine.RefusesOpenEnd →
      ∀ (source : String) (flags : Regex.Flags) (r : Regexp), ofSource? source flags = some r →
        (∃ offset, tokenize r.display = .ok [⟨.literal (.regexp r), offset⟩]) ∧
          (evaluateText r.display {}).result = .ok (.regexp r) := by
  intro h
  let engine : Regex.Engine :=
    { accepts := fun pattern => pattern ∈ ["\\/", "\\\\"], isMatch := fun _ _ => false }
  have hrefuses : Regex.Engine.RefusesOpenEnd := by
    intro pattern hpattern
    rcases List.mem_cons.1 (of_decide_eq_true hpattern) with rfl | hmem
    · rfl
    · obtain rfl := List.mem_singleton.1 hmem
      rfl
  let r : Regexp := ⟨"\\/", .none, by decide⟩
  obtain ⟨⟨offset, htokens⟩, _⟩ := h hrefuses "\\/" .none r (ofSource?_eq_some_iff.2 ⟨rfl, rfl⟩)
  have hdisplay : r.display = "/\\\\//" := by decide +kernel
  have hread : tokenize "/\\\\//" =
      .ok [⟨.literal (.regexp ⟨"\\\\", .none, by decide⟩), 0⟩,
        ⟨.operator (.arithmetic .divide), 4⟩] :=
    Lexer.tokensFrom_eq_cons rfl rfl <| Lexer.tokensFrom_eq_cons rfl rfl <|
      Lexer.tokensFrom_of_dropWhile_eq_nil rfl
  rw [hdisplay, hread, Except.ok.injEq] at htokens
  exact absurd (List.cons.inj htokens).2 (List.cons_ne_nil _ _)

end Regexp

end ScalarExpr

import ScalarExpr.Proofs.Lexing
import ScalarExpr.Token.PrefixOrder
/-!
# The tokens of a text

A text is cut into separators and tokens from the left to the right. The tokens come
out in the order in which they stand, and a variable is the piece of the text that
stands at its offset, character by character.

## Main definitions

- `Lexer.Reads` — a run over a text, token by token
- `ReadAs` — the tokens of a text, white space at its end left aside
- `Text.StandsAt` — a piece of a text at an offset

## Main statements

- `Lexer.reads_tokensFrom`: the tokens of a text, or its fault, come from a run over it
- `Lexer.exists_cut_of_tokensFrom`: the text up to the end of its first token
- `ReadAs.pairwise_offset`, `ReadAs.standsAt`: where the tokens stand
-/

namespace ScalarExpr

/-- The piece stands in the text at an offset, counted in bytes. -/
def Text.StandsAt (piece cs : List Char) (offset : Nat) : Prop :=
  ∃ before behind, cs = before ++ piece ++ behind ∧ Text.byteLength before = offset

theorem Text.byteLength_pos {cs : List Char} (h : cs ≠ []) : 0 < Text.byteLength cs := by
  cases cs with
  | nil => exact absurd rfl h
  | cons c cs =>
    have hsize := c.utf8Size_pos
    rw [byteLength_cons]
    omega

variable [Regex.Engine]

namespace Lexer

variable {operandExpected : Bool} {offset : Nat} {cs : List Char} {tokens : List Token}

/-- A run over a text: separators and a token again and again, until separators alone are
    left or no token can be read. -/
inductive Reads : Bool → Nat → List Char → Except Error (List Token) → Prop where
  | done {operandExpected : Bool} {offset : Nat} {gap : List Char}
    (hgap : ∀ c ∈ gap, Text.isSeparator c) : Reads operandExpected offset gap (.ok [])
  | fault {operandExpected : Bool} {offset : Nat} {gap behind : List Char} {c : Char}
    {fault : LexFault} (hgap : ∀ c ∈ gap, Text.isSeparator c) (hc : ¬ Text.isSeparator c)
    (hread : readToken operandExpected c behind = .error fault) :
    Reads operandExpected offset (gap ++ c :: behind)
      (.error (.lex fault (offset + Text.byteLength gap) (String.ofList (Text.word (c :: behind)))))
  | token {operandExpected : Bool} {offset : Nat} {gap tail rest : List Char} {c : Char}
    {kind : TokenKind} {result : Except Error (List Token)}
    (hgap : ∀ c ∈ gap, Text.isSeparator c) (hc : ¬ Text.isSeparator c)
    (hread : readToken operandExpected c (tail ++ rest) = .ok (kind, rest))
    (hrest : Reads kind.expectsOperand
      (offset + Text.byteLength gap + Text.byteLength (c :: tail)) rest result) :
    Reads operandExpected offset (gap ++ (c :: tail ++ rest))
      (result.map (⟨kind, offset + Text.byteLength gap⟩ :: ·))

theorem Reads.tokensFrom_eq {result : Except Error (List Token)}
    (h : Reads operandExpected offset cs result) :
    tokensFrom operandExpected offset cs = result := by
  induction h with
  | @done _ _ gap hgap =>
    refine tokensFrom_of_dropWhile_eq_nil ?_
    rw [← List.append_nil gap, List.dropWhile_append_of_pos hgap]
    rfl
  | fault hgap hc hread => exact tokensFrom_gap_of_fault hgap hc hread _
  | token hgap hc hread _ ih => rw [tokensFrom_gap hgap hc hread, ih]

/-- The tokens of a text, or its fault, come from a run over it. -/
theorem reads_tokensFrom (operandExpected : Bool) (offset : Nat) (cs : List Char) :
    Reads operandExpected offset cs (tokensFrom operandExpected offset cs) := by
  have hsplit := List.takeWhile_append_dropWhile (p := Text.isSeparator) (l := cs)
  have hgap : ∀ c ∈ cs.takeWhile Text.isSeparator, Text.isSeparator c := fun c hc =>
    List.all_eq_true.1 List.all_takeWhile c hc
  cases hcs : cs.dropWhile Text.isSeparator with
  | nil =>
    rw [hcs, List.append_nil] at hsplit
    rw [tokensFrom_of_dropWhile_eq_nil hcs]
    exact .done (hsplit ▸ hgap)
  | cons c behind =>
    rw [hcs] at hsplit
    have hc : ¬ Text.isSeparator c := by
      have hhead := List.head?_dropWhile_not Text.isSeparator cs
      rw [hcs] at hhead
      exact Bool.eq_false_iff.1 hhead
    cases hread : readToken operandExpected c behind with
    | error fault =>
      have hrun : Reads operandExpected offset _ _ := .fault hgap hc hread
      rw [hsplit] at hrun
      rwa [hrun.tokensFrom_eq]
    | ok read =>
      obtain ⟨kind, rest⟩ := read
      obtain ⟨tail, rfl⟩ := readToken_suffix hread
      have hrest : rest.length < cs.length := by
        rw [← hsplit]
        simp only [List.length_append, List.length_cons]
        omega
      have hrun := Reads.token hgap hc hread (reads_tokensFrom _
        (offset + Text.byteLength (cs.takeWhile Text.isSeparator) + Text.byteLength (c :: tail))
        rest)
      rw [List.cons_append, hsplit] at hrun
      rwa [hrun.tokensFrom_eq]
termination_by cs.length

/-- A text that is read is separators, or separators, the characters of a token and what
    the other tokens are read from. -/
theorem exists_gap_of_tokensFrom (h : tokensFrom operandExpected offset cs = .ok tokens) :
    ∃ gap, (∀ c ∈ gap, Text.isSeparator c) ∧ ((cs = gap ∧ tokens = []) ∨
      ∃ c tail rest kind tokens', cs = gap ++ (c :: tail ++ rest) ∧ ¬ Text.isSeparator c ∧
        readToken operandExpected c (tail ++ rest) = .ok (kind, rest) ∧
        tokens = ⟨kind, offset + Text.byteLength gap⟩ :: tokens' ∧
        tokensFrom kind.expectsOperand
          (offset + Text.byteLength gap + Text.byteLength (c :: tail)) rest = .ok tokens') := by
  have hrun := reads_tokensFrom operandExpected offset cs
  generalize tokensFrom operandExpected offset cs = result at h hrun
  cases hrun with
  | done hgap =>
    cases h
    exact ⟨cs, hgap, .inl ⟨rfl, rfl⟩⟩
  | fault => cases h
  | token hgap hc hread hrest =>
    obtain ⟨tokens', rfl, heq⟩ := map_eq_ok_iff.1 h
    exact ⟨_, hgap, .inr ⟨_, _, _, _, tokens', rfl, hc, hread, heq.symm, hrest.tokensFrom_eq⟩⟩

/-- The text begins with separators and the characters of its first token; those of
    a variable are its path. The other tokens are read from what is left. -/
theorem exists_cut_of_tokensFrom {t : Token}
    (h : tokensFrom operandExpected offset cs = .ok (t :: tokens)) :
    ∃ gap taken rest, cs = gap ++ (taken ++ rest) ∧ taken ≠ [] ∧
      t.offset = offset + Text.byteLength gap ∧
      (∀ path, t.kind = .variable path → taken = path.toList) ∧
      tokensFrom t.kind.expectsOperand (t.offset + Text.byteLength taken) rest = .ok tokens := by
  obtain ⟨gap, _, ⟨_, hnil⟩ | ⟨c, tail, rest, kind, tokens', hcs, _, hread, heq, htokens⟩⟩ :=
    exists_gap_of_tokensFrom h
  · cases hnil
  · cases heq
    refine ⟨gap, c :: tail, rest, hcs, List.cons_ne_nil c tail, rfl, ?_, htokens⟩
    rintro path rfl
    have hpath := variablePath_append (readToken_eq_variable hread).2.2
    rw [← List.cons_append] at hpath
    exact List.append_cancel_right hpath

/-- A token is read, and then the others. -/
theorem tokensFrom_eq_cons {c : Char} {tail rest : List Char} {kind : TokenKind}
    (hcs : cs.dropWhile Text.isSeparator = c :: tail)
    (hread : readToken operandExpected c tail = .ok (kind, rest))
    (hrest : tokensFrom kind.expectsOperand
      (offset + Text.byteLength (cs.takeWhile Text.isSeparator) +
        (Text.byteLength (c :: tail) - Text.byteLength rest)) rest = .ok tokens) :
    tokensFrom operandExpected offset cs =
      .ok (⟨kind, offset + Text.byteLength (cs.takeWhile Text.isSeparator)⟩ :: tokens) := by
  rw [tokensFrom_of_readToken hcs hread, hrest]
  rfl

theorem le_offset_of_tokensFrom (h : tokensFrom operandExpected offset cs = .ok tokens) :
    ∀ t ∈ tokens, offset ≤ t.offset := by
  induction tokens generalizing operandExpected offset cs with
  | nil => exact fun t ht => absurd ht List.not_mem_nil
  | cons first tokens ih =>
    obtain ⟨gap, taken, rest, _, _, hoffset, _, htokens⟩ := exists_cut_of_tokensFrom h
    intro t ht
    rcases List.mem_cons.1 ht with rfl | ht
    · omega
    · have hle := ih htokens t ht
      omega

/-- Each token starts behind the one before it. -/
theorem pairwise_offset_of_tokensFrom (h : tokensFrom operandExpected offset cs = .ok tokens) :
    tokens.Pairwise fun t u => t.offset < u.offset := by
  induction tokens generalizing operandExpected offset cs with
  | nil => exact .nil
  | cons t tokens ih =>
    obtain ⟨gap, taken, rest, _, htaken, _, _, htokens⟩ := exists_cut_of_tokensFrom h
    have hpos := Text.byteLength_pos htaken
    refine .cons (fun u hu => ?_) (ih htokens)
    have hle := le_offset_of_tokensFrom htokens u hu
    omega

/-- A variable is written at its offset. -/
theorem standsAt_of_tokensFrom (h : tokensFrom operandExpected offset cs = .ok tokens)
    {path : String} {start : Nat} (hvariable : ⟨.variable path, start⟩ ∈ tokens) :
    ∃ skipped, start = offset + skipped ∧ Text.StandsAt path.toList cs skipped := by
  induction tokens generalizing operandExpected offset cs with
  | nil => exact absurd hvariable List.not_mem_nil
  | cons t tokens ih =>
    obtain ⟨gap, taken, rest, rfl, _, hoffset, hpath, htokens⟩ := exists_cut_of_tokensFrom h
    rcases List.mem_cons.1 hvariable with rfl | hvariable
    · obtain rfl := hpath path rfl
      exact ⟨_, hoffset, gap, rest, (List.append_assoc ..).symm, rfl⟩
    · obtain ⟨skipped, hstart, before, behind, rfl, hbefore⟩ := ih htokens hvariable
      refine ⟨Text.byteLength (gap ++ (taken ++ before)), ?_, gap ++ (taken ++ before), behind,
        by simp only [List.append_assoc], rfl⟩
      simp only [Text.byteLength_append]
      omega

end Lexer

/-- The tokens are those of the text, white space at its end left aside. -/
def ReadAs (text : String) (tokens : List Token) : Prop :=
  Lexer.tokensFrom true 0 (Text.trimEnd text.toList) = .ok tokens

namespace ReadAs

variable {text : String} {tokens : List Token}

theorem parse_eq (h : ReadAs text tokens) : parse text = toPrefix tokens := by
  rw [parse, h]

theorem pairwise_offset (h : ReadAs text tokens) :
    tokens.Pairwise fun t u => t.offset < u.offset :=
  Lexer.pairwise_offset_of_tokensFrom h

theorem standsAt (h : ReadAs text tokens) {path : String} {offset : Nat}
    (hvariable : ⟨.variable path, offset⟩ ∈ tokens) :
    Text.StandsAt path.toList (Text.trimEnd text.toList) offset := by
  obtain ⟨skipped, hoffset, hstands⟩ := Lexer.standsAt_of_tokensFrom h hvariable
  rw [Nat.zero_add] at hoffset
  exact hoffset ▸ hstands

end ReadAs

/-- A text that can be parsed has tokens, which can be put in prefix order. -/
theorem exists_readAs_of_parse {text : String} {ordered : List Token}
    (h : parse text = .ok ordered) :
    ∃ tokens, ReadAs text tokens ∧ toPrefix tokens = .ok ordered := by
  rw [parse] at h
  split at h
  · rename_i tokens htokens
    exact ⟨tokens, htokens, h⟩
  · cases h

end ScalarExpr

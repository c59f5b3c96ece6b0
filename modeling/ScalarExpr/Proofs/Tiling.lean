import ScalarExpr.Proofs.Locality
import ScalarExpr.Proofs.Source
import ScalarExpr.Regex.Dialect
/-!
# Tokens tile the text

The range of a token goes from where it starts to where the next token does, less the
separators at its end. The ranges of the tokens of a text and the separators between
them make up the text: each range is what its token was read from, and reads as this
token alone in the state that the token before it leaves.

## Main definitions

- `Lexer.range`, `Lexer.ranges` — the ranges of tokens in a text
- `Lexer.stateAfter` — the state that tokens leave
- `Lexer.Tiled` — a text from some place on, cut into separators and tokens
- `Lexer.Tiles` — how tokens tile a text

## Main statements

- `Lexer.tiled_of_tokensFrom`: a text that is read is cut in this way
- `Lexer.Tiled.exists_front`: and so it is from each of its tokens on
- `tiles_of_tokenize`: the tokens of a text tile it
-/

namespace ScalarExpr

-- ════════════════════════════════════════════════════════════════════════
-- Parts of a text by bytes
-- ════════════════════════════════════════════════════════════════════════

namespace Text

/-- The characters that fit into the first bytes of a text. -/
def takeBytes : Nat → List Char → List Char
  | _, [] => []
  | size, c :: cs => if c.utf8Size ≤ size then c :: takeBytes (size - c.utf8Size) cs else []

/-- The text without the characters that fit into its first bytes. -/
def dropBytes : Nat → List Char → List Char
  | _, [] => []
  | size, c :: cs => if c.utf8Size ≤ size then dropBytes (size - c.utf8Size) cs else c :: cs

@[simp] theorem takeBytes_append (front cs : List Char) :
    takeBytes (byteLength front) (front ++ cs) = front := by
  induction front with
  | nil =>
    cases cs with
    | nil => rfl
    | cons c cs =>
      have hsize := c.utf8Size_pos
      simp [takeBytes, Nat.ne_of_gt hsize]
  | cons c front ih => simp [takeBytes, ih]

@[simp] theorem dropBytes_append (front cs : List Char) :
    dropBytes (byteLength front) (front ++ cs) = cs := by
  induction front with
  | nil =>
    cases cs with
    | nil => rfl
    | cons c cs =>
      have hsize := c.utf8Size_pos
      simp [dropBytes, Nat.ne_of_gt hsize]
  | cons c front ih => simp [dropBytes, ih]

end Text

namespace Lexer

variable [Regex.Engine]

-- ════════════════════════════════════════════════════════════════════════
-- Ranges
-- ════════════════════════════════════════════════════════════════════════

/-- Where the next token starts, or the text ends. -/
def nextStart (cs : List Char) (later : List Token) : Nat :=
  (later.head?.map Token.offset).getD (Text.byteLength cs)

/-- The range of a token with others behind it: from where it starts to where the next
    one does or the text ends, less the separators at the end. -/
def range (cs : List Char) (t : Token) (later : List Token) : List Char :=
  (Text.takeBytes (nextStart cs later - t.offset) (Text.dropBytes t.offset cs)).rdropWhile
    Text.isSeparator

/-- The ranges of tokens, one after another. -/
def ranges (cs : List Char) : List Token → List (List Char)
  | [] => []
  | t :: later => range cs t later :: ranges cs later

/-- The position, in bytes, lies in the range of one of the tokens. -/
def Covered (cs : List Char) (tokens : List Token) (position : Nat) : Prop :=
  ∃ earlier t later, tokens = earlier ++ t :: later ∧ t.offset ≤ position ∧
    position < t.offset + Text.byteLength (range cs t later)

/-- Whether an operand is expected behind tokens. -/
def stateAfter (operandExpected : Bool) : List Token → Bool
  | [] => operandExpected
  | t :: later => stateAfter t.kind.expectsOperand later

/-- The tokens tile the text. They start one behind another; each has a range that
    starts where it does and reads as this token alone, in the state that the tokens
    before it leave; what lies in no range separates. -/
structure Tiles (tokens : List Token) (cs : List Char) : Prop where
  increasing : tokens.Pairwise fun t u => t.offset < u.offset
  standsAt : ∀ earlier t later, tokens = earlier ++ t :: later →
    range cs t later ≠ [] ∧ Text.StandsAt (range cs t later) cs t.offset
  outside : ∀ front c behind, cs = front ++ c :: behind →
    ¬ Covered cs tokens (Text.byteLength front) → Text.isSeparator c
  alone : ∀ earlier t later, tokens = earlier ++ t :: later →
    tokensFrom (stateAfter true earlier) 0 (range cs t later) = .ok [⟨t.kind, 0⟩]
  path : ∀ earlier t later path, tokens = earlier ++ t :: later → t.kind = .variable path →
    range cs t later = path.toList

-- ════════════════════════════════════════════════════════════════════════
-- The cuts of a text
-- ════════════════════════════════════════════════════════════════════════

/-- A text is cut into separators and tokens from some place on: `before` is what stands
    before this place, and tells where the tokens start. -/
inductive Tiled : Bool → List Char → List Char → List Token → Prop where
  | nil {operandExpected : Bool} {before gap : List Char}
    (hgap : ∀ c ∈ gap, Text.isSeparator c) : Tiled operandExpected before gap []
  | cons {operandExpected : Bool} {before gap tail rest : List Char} {c : Char} {kind : TokenKind}
    {tokens : List Token} (hgap : ∀ c ∈ gap, Text.isSeparator c) (hc : ¬ Text.isSeparator c)
    (hread : readToken operandExpected c (tail ++ rest) = .ok (kind, rest))
    (behind : Tiled kind.expectsOperand (before ++ (gap ++ c :: tail)) rest tokens) :
    Tiled operandExpected before (gap ++ (c :: tail ++ rest))
      (⟨kind, Text.byteLength (before ++ gap)⟩ :: tokens)

variable {operandExpected : Bool} {before cs : List Char} {tokens : List Token}

theorem tiled_of_tokensFrom
    (h : tokensFrom operandExpected (Text.byteLength before) cs = .ok tokens) :
    Tiled operandExpected before cs tokens := by
  induction tokens generalizing operandExpected before cs with
  | nil =>
    obtain ⟨gap, hgap, ⟨rfl, _⟩ | ⟨c, tail, rest, kind, tokens', _, _, _, hcons, _⟩⟩ :=
      exists_gap_of_tokensFrom h
    · exact .nil hgap
    · cases hcons
  | cons t tokens ih =>
    obtain ⟨gap, hgap, ⟨_, hnil⟩ | ⟨c, tail, rest, kind, tokens', rfl, hc, hread, heq, htokens⟩⟩ :=
      exists_gap_of_tokensFrom h
    · cases hnil
    · cases heq
      have hbefore : Text.byteLength (before ++ (gap ++ c :: tail)) =
          Text.byteLength before + Text.byteLength gap + Text.byteLength (c :: tail) := by
        simp only [Text.byteLength_append, Nat.add_assoc]
      rw [← hbefore] at htokens
      rw [← Text.byteLength_append]
      exact .cons hgap hc hread (ih htokens)

/-- Up to where the first token starts, or to the end, there are separators. -/
theorem Tiled.exists_gap (h : Tiled operandExpected before cs tokens) :
    ∃ gap rest, cs = gap ++ rest ∧ (∀ c ∈ gap, Text.isSeparator c) ∧
      nextStart (before ++ cs) tokens = Text.byteLength (before ++ gap) := by
  cases h with
  | nil hgap => exact ⟨cs, [], by simp, hgap, rfl⟩
  | cons hgap hc hread behind => exact ⟨_, _, rfl, hgap, rfl⟩

theorem range_eq_of_tiled {piece : List Char} {t : Token}
    (hoffset : Text.byteLength before = t.offset) (hpiece : Tight piece)
    (behind : Tiled operandExpected (before ++ piece) cs tokens) :
    range (before ++ (piece ++ cs)) t tokens = piece := by
  obtain ⟨gap, rest, rfl, hgap, hnext⟩ := behind.exists_gap
  rw [List.append_assoc] at hnext
  have hsize : Text.byteLength (before ++ piece ++ gap) - Text.byteLength before =
      Text.byteLength (piece ++ gap) := by
    simp only [Text.byteLength_append]
    omega
  rw [range, ← hoffset, hnext, hsize, Text.dropBytes_append, ← List.append_assoc piece,
    Text.takeBytes_append, hpiece.rdropWhile_append hgap]

/-- A text that is cut into tokens is cut from each of its tokens on. -/
theorem Tiled.exists_front {earlier later : List Token} {t : Token}
    (h : Tiled operandExpected before cs (earlier ++ t :: later)) :
    ∃ front c tail rest, before ++ cs = front ++ (c :: tail ++ rest) ∧
      Text.byteLength front = t.offset ∧ ¬ Text.isSeparator c ∧
      readToken (stateAfter operandExpected earlier) c (tail ++ rest) = .ok (t.kind, rest) ∧
      Tiled t.kind.expectsOperand (front ++ c :: tail) rest later := by
  induction earlier generalizing operandExpected before cs with
  | nil =>
    cases h with
    | @cons _ _ gap tail rest c kind _ hgap hc hread behind =>
      refine ⟨before ++ gap, c, tail, rest, by simp, rfl, hc, hread, ?_⟩
      rwa [List.append_assoc]
  | cons first earlier ih =>
    cases h with
    | @cons _ _ gap tail rest c kind _ hgap hc hread behind =>
      obtain ⟨front, d, tail', rest', hsplit, hfront⟩ := ih behind
      exact ⟨front, d, tail', rest', by rw [← hsplit]; simp, hfront⟩

/-- The characters that a token of the text was read from are its range. -/
theorem Tiled.exists_range {earlier later : List Token} {t : Token}
    (h : Tiled operandExpected before cs (earlier ++ t :: later)) :
    ∃ front rest, before ++ cs = front ++ (range (before ++ cs) t later ++ rest) ∧
      Text.byteLength front = t.offset ∧
      LexesAs (stateAfter operandExpected earlier) (range (before ++ cs) t later) t.kind := by
  obtain ⟨front, c, tail, rest, hsplit, hfront, hc, hread, behind⟩ := h.exists_front
  have hrange : range (before ++ cs) t later = c :: tail := by
    rw [hsplit]
    exact range_eq_of_tiled hfront (tight_of_readToken hc hread) behind
  rw [hrange]
  exact ⟨front, rest, hsplit, hfront, lexesAs_of_taken hc hread⟩

theorem LexesAs.ne_nil {kind : TokenKind} (h : LexesAs operandExpected cs kind) : cs ≠ [] := by
  obtain ⟨c, tail, rfl, _⟩ := h
  exact List.cons_ne_nil c tail

theorem LexesAs.eq_path {path : String} (h : LexesAs operandExpected cs (.variable path)) :
    cs = path.toList := by
  obtain ⟨c, tail, rfl, _, hread⟩ := h
  have hpath := variablePath_append (readToken_eq_variable (hread [] separated_nil)).2.2
  simpa using hpath

-- ════════════════════════════════════════════════════════════════════════
-- Outside the ranges
-- ════════════════════════════════════════════════════════════════════════

omit [Regex.Engine] in
/-- A character of two texts stands in the first one or in the second one. -/
theorem append_eq_append_cons {first second front behind : List Char} {c : Char}
    (h : first ++ second = front ++ c :: behind) :
    (∃ back, first = front ++ c :: back) ∨
      ∃ front', front = first ++ front' ∧ second = front' ++ c :: behind := by
  rcases List.append_eq_append_iff.1 h with ⟨front', hfront, hsecond⟩ | ⟨back, hfirst, hcons⟩
  · exact .inr ⟨front', hfront, hsecond⟩
  · cases back with
    | nil => exact .inr ⟨[], by simpa using hfirst.symm, by simpa using hcons.symm⟩
    | cons d back =>
      obtain ⟨rfl, _⟩ := List.cons.inj hcons
      exact .inl ⟨back, hfirst⟩

/-- A character that separates nothing lies in the range of a token. -/
theorem Tiled.covered (h : Tiled operandExpected before cs tokens) {front behind : List Char}
    {c : Char} (hcs : cs = front ++ c :: behind) (hc : ¬ Text.isSeparator c) :
    Covered (before ++ cs) tokens (Text.byteLength (before ++ front)) := by
  induction h generalizing front with
  | nil hgap => exact absurd (hgap c (by simp [hcs])) hc
  | @cons _ before gap tail rest d kind tokens hgap hd hread tiled ih =>
    rcases append_eq_append_cons hcs with ⟨back, hback⟩ | ⟨front', rfl, hpiece⟩
    · exact absurd (hgap c (by simp [hback])) hc
    · have hwhole : before ++ (gap ++ (d :: tail ++ rest)) =
          before ++ (gap ++ d :: tail) ++ rest := by
        simp
      rcases append_eq_append_cons hpiece with ⟨back, hback⟩ | ⟨front'', rfl, hrest⟩
      · have hrange : range (before ++ (gap ++ (d :: tail ++ rest)))
            ⟨kind, Text.byteLength (before ++ gap)⟩ tokens = d :: tail := by
          rw [← List.append_assoc] at tiled ⊢
          exact range_eq_of_tiled rfl (tight_of_readToken hd hread) tiled
        have hsize := c.utf8Size_pos
        refine ⟨[], _, tokens, rfl, ?_, ?_⟩
        · simp only [Text.byteLength_append]
          omega
        · rw [hrange, hback]
          simp only [Text.byteLength_append, Text.byteLength_cons]
          omega
      · obtain ⟨earlier, t, later, rfl, hcovered⟩ := ih hrest
        refine ⟨_ :: earlier, t, later, rfl, ?_⟩
        rw [hwhole]
        simpa [Text.byteLength_append] using hcovered

end Lexer

open Lexer

/-- The tokens of a text tile it. -/
theorem tiles_of_tokenize [Regex.Engine] {text : String} {tokens : List Token}
    (h : tokenize text = .ok tokens) :
    Tiles tokens text.toList := by
  have htiled : Tiled true [] text.toList tokens := tiled_of_tokensFrom h
  have hrange : ∀ earlier t later, tokens = earlier ++ t :: later →
      ∃ front rest, text.toList = front ++ (range text.toList t later ++ rest) ∧
        Text.byteLength front = t.offset ∧
        LexesAs (stateAfter true earlier) (range text.toList t later) t.kind := by
    rintro earlier t later rfl
    exact htiled.exists_range
  refine ⟨pairwise_offset_of_tokensFrom h, fun earlier t later htokens => ?_,
    fun front c behind hcs houtside => ?_, fun earlier t later htokens => ?_,
    fun earlier t later path htokens hpath => ?_⟩
  · obtain ⟨front, rest, hsplit, hfront, hlexes⟩ := hrange earlier t later htokens
    exact ⟨hlexes.ne_nil, front, rest, by rw [List.append_assoc, ← hsplit], hfront⟩
  · by_contra hc
    exact houtside (htiled.covered hcs hc)
  · obtain ⟨_, _, _, _, hlexes⟩ := hrange earlier t later htokens
    exact tokensFrom_lone hlexes 0
  · obtain ⟨_, _, _, _, hlexes⟩ := hrange earlier t later htokens
    rw [hpath] at hlexes
    exact hlexes.eq_path

/-- In `-$.é[' ,'],/'b' ` a blank and a comma belong to the variable, and the slash stands
    where no operand is expected. -/
theorem tiles_of_tokenize_quoted :
    let tokens : List Token :=
      [⟨.operator (.unary .minus), 0⟩, ⟨.variable "$.é[' ,']", 1⟩,
       ⟨.operator (.arithmetic .divide), 12⟩, ⟨.literal (.string "b"), 13⟩]
    tokenize "-$.é[' ,'],/'b' " = .ok tokens ∧ Tiles tokens "-$.é[' ,'],/'b' ".toList ∧
      (ranges "-$.é[' ,'],/'b' ".toList tokens).map String.ofList =
        ["-", "$.é[' ,']", "/", "'b'"] := by
  intro tokens
  have htext : "-$.é[' ,'],/'b' ".toList =
      ['-', '$', '.', 'é', '[', '\'', ' ', ',', '\'', ']', ',', '/', '\'', 'b', '\'', ' '] := by
    decide +kernel
  have hpath : String.ofList ['$', '.', 'é', '[', '\'', ' ', ',', '\'', ']'] = "$.é[' ,']" := by
    decide +kernel
  have htokens : tokenize "-$.é[' ,'],/'b' " = .ok tokens := by
    rw [tokenize, htext]
    simp only [tokens, ← hpath]
    exact tokensFrom_eq_cons rfl rfl <| tokensFrom_eq_cons rfl rfl <|
      tokensFrom_eq_cons rfl rfl <| tokensFrom_eq_cons rfl rfl <|
        tokensFrom_of_dropWhile_eq_nil rfl
  exact ⟨htokens, tiles_of_tokenize htokens, by decide +kernel⟩

end ScalarExpr

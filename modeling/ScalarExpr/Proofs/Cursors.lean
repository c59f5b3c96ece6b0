import ScalarExpr.Proofs.EvaluatorCursor
import ScalarExpr.Proofs.PathCursor
import ScalarExpr.Proofs.Scanning
import ScalarExpr.Regex.Dialect
/-!
# Cursors stay within what is read

Texts are read along their bytes, paths from one boundary to the next, and tokens are
evaluated one after another, each with a cursor and with counters that may not be lowered at
zero. None of this goes wrong: whatever is given, there is a result, and it is the one that
reading and evaluating without positions come to.

## Main definitions

- `nextTokenAlong?`, `tokenizeAlong?`, `parseAlong?` — the next token of a text, all tokens, and
  the tokens in prefix order, with a cursor along the bytes

## Main statements

- `tokenizeAlong?_eq`, `parseAlong?_eq`: what a cursor along the bytes comes to
- `cursors_stay_within`: no cursor leaves what is read, and no counter goes below zero

## Design notes

A literal or variable may be cut between the bytes of a character. The decoder makes a text of
every piece, and all that is known of it is what it makes of the bytes of a text.
-/

namespace ScalarExpr

theorem decodes_unoctets {decode : List UInt8 → String}
    (hdecode : ∀ s : String, decode (Text.bytes s.toList) = s) :
    Lexer.Decodes fun octets => some (decode (Text.unoctets octets)) := by
  intro cs
  have hcs := hdecode (String.ofList cs)
  rw [String.toList_ofList] at hcs
  simp only [Text.unoctets_octets, hcs, Lexer.textOf]

section

variable [Regex.Engine]

section Bytes

variable (decode : List UInt8 → String)

/-- The next token of a text, the cursor being at so many bytes, and where it is behind it. -/
def nextTokenAlong? (text : String) (operandExpected : Bool) (pos : Nat) :
    Option (Except Error (Option (Token × Nat))) :=
  Scanner.nextToken? (fun octets => decode (Text.unoctets octets)) (Text.octets text.toList)
    operandExpected pos

/-- Read all tokens along the bytes of a text. -/
def tokenizeAlong? (text : String) : Option (Except Error (List Token)) :=
  Scanner.tokensAt? (fun octets => decode (Text.unoctets octets)) (Text.octets text.toList) true 0

/-- The tokens along the bytes of a text, in prefix order. -/
def parseAlong? (text : String) : Option (Except Error (List Token)) :=
  (tokenizeAlong? decode (String.ofList (Text.trimEnd text.toList))).map (· >>= toPrefix)

end Bytes

variable {decode : List UInt8 → String}

/-- Behind a token the cursor has moved, and stands within the text. -/
theorem exists_nextTokenAlong? (decode : List UInt8 → String) (text : String)
    (operandExpected : Bool) {pos : Nat} (hpos : pos ≤ Text.byteLength text.toList) :
    ∃ scanned, nextTokenAlong? decode text operandExpected pos = some scanned ∧
      ∀ t stop, scanned = .ok (some (t, stop)) →
        pos < stop ∧ stop ≤ Text.byteLength text.toList := by
  rw [← Text.length_octets] at hpos ⊢
  obtain ⟨scanned, hscanned, hsteps⟩ := Scanner.exists_nextToken? _ operandExpected hpos
  refine ⟨scanned, hscanned, ?_⟩
  rintro t stop rfl
  exact hsteps.moved

theorem tokenizeAlong?_eq (hdecode : ∀ s : String, decode (Text.bytes s.toList) = s)
    (text : String) : tokenizeAlong? decode text = some (tokenize text) := by
  rw [tokenizeAlong?, Scanner.tokensAt?_eq _ true 0 (Nat.zero_le _), List.drop_zero,
    Lexer.tokensFromUnits_octets (decodes_unoctets hdecode), tokenize]

theorem parseAlong?_eq (hdecode : ∀ s : String, decode (Text.bytes s.toList) = s)
    (text : String) : parseAlong? decode text = some (parse text) := by
  rw [parseAlong?, tokenizeAlong?_eq hdecode, tokenize, String.toList_ofList, parse]
  cases Lexer.tokensFrom true 0 (Text.trimEnd text.toList) <;> rfl

/-- No slice of a text, a path or tokens begins behind its end or ends behind the input, a path
    is cut between characters only, each token moves the cursor forward and leaves it within the
    text, and no count of brackets, operators or pending expressions is lowered at zero: every
    reading and every evaluation comes to a result. -/
theorem cursors_stay_within (hdecode : ∀ s : String, decode (Text.bytes s.toList) = s) :
    (∀ text operandExpected pos, pos ≤ Text.byteLength text.toList →
      ∃ scanned, nextTokenAlong? decode text operandExpected pos = some scanned ∧
        ∀ t stop, scanned = .ok (some (t, stop)) →
          pos < stop ∧ stop ≤ Text.byteLength text.toList) ∧
      (∀ text, tokenizeAlong? decode text = some (tokenize text)) ∧
      (∀ text, parseAlong? decode text = some (parse text)) ∧
      (∀ path, PathScanner.parse? path = some (Path.parse path)) ∧
      ∀ tokens context, ∃ stop, evaluateAlong? tokens context = some stop ∧
        stop.run = evaluate tokens context ∧ stop.pos ≤ tokens.length ∧ stop.depth = 0 := by
  refine ⟨fun text operandExpected pos hpos => ?_, fun text => ?_, fun text => ?_,
    PathScanner.parse?_eq, fun tokens context => ?_⟩
  · exact exists_nextTokenAlong? decode text operandExpected hpos
  · exact tokenizeAlong?_eq hdecode text
  · exact parseAlong?_eq hdecode text
  · obtain ⟨stop, hstop, hrun, hpos, hdepth, _⟩ := exists_evaluateAlong? tokens context
    exact ⟨stop, hstop, hrun, hpos, hdepth⟩

end

/-- A backslash in a quoted name takes the cursor behind the end of the text, or between the two
    bytes of a character; a path may end behind an opening bracket, and the tokens where one is
    to be passed over. -/
theorem cursors_stay_within_of_malformed :
    let lossy : List UInt8 → String := fun bytes =>
      (String.fromUTF8? bytes.toByteArray).getD "\uFFFD"
    let tokens : List Token := [⟨.operator (.logical .and), 2⟩, ⟨.literal .null, 0⟩]
    (∀ s : String, lossy (Text.bytes s.toList) = s) ∧
      tokenizeAlong? lossy "$['\\" = some (.error (.lex .unexpectedEndOfString 0 "$['\\")) ∧
      parseAlong? lossy "'\\é'" = some (.ok [⟨.literal (.string "\\é"), 0⟩]) ∧
      PathScanner.parse? "$.é[" = some (.error .unexpectedEnd) ∧
      ∃ stop, evaluateAlong? tokens {} = some stop ∧
        stop.run.result = .error .notEnoughArguments := by
  intro lossy tokens
  have hlossy : ∀ s : String, lossy (Text.bytes s.toList) = s := by
    intro s
    simp only [lossy, fromUTF8?_bytes, Option.getD_some]
  obtain ⟨_, htokenize, hparse, hpath, hevaluate⟩ := cursors_stay_within hlossy
  refine ⟨hlossy, ?_, ?_, ?_, ?_⟩
  · have htext : "$['\\".toList = ['$', '[', '\'', '\\'] := by decide +kernel
    have hword : "$['\\" = String.ofList (Text.word ['$', '[', '\'', '\\']) := by
      decide +kernel
    rw [htokenize, tokenize, htext, hword]
    exact congrArg some (Lexer.tokensFrom_of_fault rfl rfl)
  · have htext : Text.trimEnd "'\\é'".toList = ['\'', '\\', 'é', '\''] := by decide +kernel
    have htokens : parse "'\\é'" = .ok [⟨.literal (.string "\\é"), 0⟩] := by
      rw [parse, htext, Lexer.tokensFrom_eq_cons rfl rfl Lexer.tokensFrom_nil]
      rfl
    rw [hparse, htokens]
  · have htext : "$.é[".toList = ['$', '.', 'é', '['] := by decide +kernel
    rw [hpath, Path.parse, htext]
    simp [Path.segments, Path.bracketed, Path.bracketContent, Path.isNameChar]
  · obtain ⟨stop, hstop, hrun, _⟩ := hevaluate tokens {}
    refine ⟨stop, hstop, ?_⟩
    rw [hrun, evaluate_eq_reduceHead, Evaluator.reduceHead_logical, Evaluator.reduceHead_literal]
    rfl

end ScalarExpr

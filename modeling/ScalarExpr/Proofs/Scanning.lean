import ScalarExpr.Proofs.ByteReading
import ScalarExpr.Proofs.NumberLiterals
import ScalarExpr.Proofs.ScannerLoops
/-!
# A scan reads the tokens

Pieces, tokens and whole texts are scanned as they are read: no slice begins behind its end or
ends behind the input, no count is lowered at zero, and each token moves the cursor forward and
leaves it within the input.

## Main definitions

- `Scanner.Steps` — what the next token is

## Main statements

- `Scanner.exists_cutAt?`, `Scanner.exists_readAt?`: the piece and the token at the cursor
- `Scanner.exists_nextToken?`: the next token, and where the cursor is behind it
- `Scanner.exists_tokensAt?`, `Scanner.tokensAt?_eq`: all tokens
-/

namespace ScalarExpr

namespace Scanner

open Lexer

variable {input : List Char} {pos : Nat}

-- ════════════════════════════════════════════════════════════════════════
-- Pieces of the input
-- ════════════════════════════════════════════════════════════════════════

theorem hexDigit?_of_isHexDigit {c : Char} (h : Text.isHexDigit c) :
    hexDigit? c = some (Text.hexDigitValue c) := by
  unfold hexDigit? Text.hexDigitValue
  by_cases hdigit : c.isDigit
  · have hle : '0'.toNat ≤ c.toNat := (Char.isDigit_iff_toNat.1 hdigit).1
    rw [if_pos hdigit, if_pos hdigit, Nat.psub_eq_sub hle]
  rw [if_neg hdigit, if_neg hdigit]
  simp only [Text.isHexDigit, hdigit, Bool.false_or, Bool.or_eq_true, Bool.and_eq_true,
    decide_eq_true_eq] at h ⊢
  rcases h with ⟨hfirst, hlast⟩ | ⟨hfirst, hlast⟩
  · have hle : 'a'.toNat ≤ c.toNat := hfirst
    rw [if_pos ⟨hfirst, hlast⟩, if_pos hfirst, Nat.psub_eq_sub hle, Option.map_some]
  · have hle : 'A'.toNat ≤ c.toNat := hfirst
    have hlower : ¬ 'a' ≤ c := fun h => absurd (Char.le_trans h hlast) (by decide)
    rw [if_neg fun h => hlower h.1, if_neg hlower, Nat.psub_eq_sub hle, Option.map_some]

theorem foldlM_hexDigit? {digits : List Char} (h : ∀ c ∈ digits, Text.isHexDigit c) (n : Nat) :
    digits.foldlM (fun (n : Nat) c => (hexDigit? c).map (16 * n + ·)) n =
      some (digits.foldl (fun n c => 16 * n + Text.hexDigitValue c) n) := by
  induction digits generalizing n with
  | nil => rfl
  | cons c digits ih =>
    rw [List.foldlM_cons, hexDigit?_of_isHexDigit (h c List.mem_cons_self), Option.map_some,
      Option.bind_eq_bind, Option.bind_some, ih fun d hd => h d (List.mem_cons_of_mem c hd),
      List.foldl_cons]

/-- The first digit that is not zero, or the last one, is a place in the digits. What begins
    there is too long exactly if the digits without the zeros before them are, and spells as
    much as all digits. -/
theorem exists_significant {digits : List Char} (hne : digits ≠ []) :
    ∃ first significant, (digits.findIdx? (· ≠ '0')).or digits.length.ppred = some first ∧
      slice? digits first digits.length = some significant ∧ significant ⊆ digits ∧
      (maxHexDigits < significant.length ↔
        maxHexDigits < (digits.dropWhile (· = '0')).length) ∧
      Text.hexValue significant = Text.hexValue digits := by
  cases hfirst : digits.findIdx? (· ≠ '0') with
  | some first =>
    obtain ⟨hlt, hidx⟩ := List.findIdx?_eq_some_iff_findIdx_eq.1 hfirst
    have hdrop : digits.drop first = digits.dropWhile (· = '0') := by
      rw [List.dropWhile_eq_drop_findIdx_not, ← hidx]
      simp only [ne_eq, decide_not]
    refine ⟨first, _, rfl, slice?_length hlt.le, List.drop_subset _ _, ?_, ?_⟩
    · rw [hdrop]
    · rw [hdrop, Text.hexValue_dropWhile]
  | none =>
    have hzeros : ∀ c ∈ digits, c = '0' := fun c hc => by
      simpa using List.findIdx?_eq_none_iff.1 hfirst c hc
    have hlast : digits.drop (digits.length - 1) = ['0'] := by
      rw [List.drop_length_sub_one hne, hzeros _ (List.getLast_mem hne)]
    have hdrop : digits.dropWhile (· = '0') = [] :=
      List.dropWhile_eq_nil_iff.2 fun c hc => decide_eq_true (hzeros c hc)
    refine ⟨digits.length - 1, _, Nat.ppred_eq_pred (List.length_pos_iff.2 hne),
      slice?_length (Nat.sub_le _ _), List.drop_subset _ _, ?_, ?_⟩
    · rw [hlast, hdrop]
      decide
    · rw [hlast, ← Text.hexValue_dropWhile digits, hdrop]
      rfl

theorem hexDigits?_eq_ite (cs : List Char) :
    hexDigits? cs =
      if ['0', 'x'].isPrefixOf cs || ['0', 'X'].isPrefixOf cs then some (cs.drop 2) else none := by
  rw [hexDigits?, isPrefixOf?_eq_ite, isPrefixOf?_eq_ite]
  cases ['0', 'x'].isPrefixOf cs <;> cases ['0', 'X'].isPrefixOf cs <;> rfl

theorem advanceWhile_eq (p : Char → Bool) (hpos : pos ≤ input.length) :
    advanceWhile input p pos = pos + ((input.drop pos).takeWhile p).length := by
  obtain ⟨hle, hdrop⟩ := drop_advanceWhile p hpos
  have hsplit := congrArg List.length
    (List.takeWhile_append_dropWhile (p := p) (l := input.drop pos))
  rw [← hdrop, List.length_append, List.length_drop, List.length_drop] at hsplit
  have := le_advanceWhile input p pos
  omega

theorem lastWord?_eq (hpos : pos ≤ input.length) :
    lastWord? decode input pos = some (decode (Text.word (input.drop pos))) := by
  have hword : Text.word (input.drop pos) =
      (input.drop pos).take ((input.drop pos).findIdx Text.isAsciiBlank) := by
    simp only [Text.word, List.takeWhile_eq_take_findIdx_not, Bool.not_not]
  simp only [lastWord?, Nat.min_eq_left hpos, slice?_length hpos, Option.bind_eq_bind,
    Option.bind_some]
  cases hblank : (input.drop pos).findIdx? Text.isAsciiBlank with
  | some i =>
    obtain ⟨hlt, hidx⟩ := List.findIdx?_eq_some_iff_findIdx_eq.1 hblank
    rw [List.length_drop] at hlt
    have hslice : slice? input pos (pos + i) = some (Text.word (input.drop pos)) := by
      refine slice?_of_drop_eq_append (by omega) ?_ (Nat.le_add_right pos i)
      rw [hword, hidx, ← List.drop_drop, List.take_append_drop]
    rw [Option.map_some, Option.getD_some, hslice, Option.bind_some]
  | none =>
    have hidx := List.findIdx_eq_length.2 (List.findIdx?_eq_none_iff.1 hblank)
    rw [Option.map_none, Option.getD_none, slice?_length hpos, Option.bind_some, hword, hidx,
      List.take_length]

variable [Regex.Engine]

theorem exists_hexAt? (hmark : pos + 2 ≤ input.length) :
    ∃ scanned, hexAt? input pos = some scanned ∧
      Tracks input scanned ((readHex (input.drop (pos + 2))).map fun (value, rest) =>
        (.token (.literal value), rest)) := by
  obtain ⟨hstop, hdrop⟩ := drop_advanceWhile Char.isAlphanum hmark
  rw [hexAt?, slice?_advanceWhile Char.isAlphanum hmark, Option.bind_eq_bind, Option.bind_some]
  simp only [readHex]
  generalize (input.drop (pos + 2)).takeWhile Char.isAlphanum = digits
  by_cases hinvalid : digits = [] ∨ ¬ digits.all Text.isHexDigit
  · rw [if_pos hinvalid, if_pos hinvalid]
    exact ⟨_, rfl, .error _⟩
  rw [if_neg hinvalid, if_neg hinvalid]
  obtain ⟨hne, hall⟩ := not_or.1 hinvalid
  obtain ⟨first, significant, hfirst, hsignificant, hsubset, hlong, hvalue⟩ :=
    exists_significant hne
  have hhex : ∀ c ∈ significant, Text.isHexDigit c := fun c hc =>
    List.all_eq_true.1 (not_not.1 hall) c (hsubset hc)
  simp only [hfirst, hsignificant, Option.bind_eq_bind, Option.bind_some]
  by_cases htoo : maxHexDigits < significant.length
  · rw [if_pos htoo, if_pos (hlong.1 htoo)]
    exact ⟨_, rfl, .error _⟩
  · rw [if_neg htoo, if_neg fun h => htoo (hlong.2 h), foldlM_hexDigit? hhex 0, Option.bind_some,
      ← hdrop, ← hvalue]
    exact ⟨_, rfl, .ok _ hstop⟩

theorem exists_numberAt? (hpos : pos ≤ input.length) :
    ∃ scanned, numberAt? input pos = some scanned ∧
      Tracks input scanned (cutNumber (input.drop pos)) := by
  rw [numberAt?, slice?_length hpos, Option.bind_eq_bind, Option.bind_some, cutNumber]
  by_cases hmark : ['0', 'x'].isPrefixOf (input.drop pos) || ['0', 'X'].isPrefixOf (input.drop pos)
  · have hdigits : hexDigits? (input.drop pos) = some (input.drop (pos + 2)) := by
      rw [hexDigits?_eq_ite, if_pos hmark, List.drop_drop]
    have hlength : pos + 2 ≤ input.length := by
      have hdrop := congrArg List.length (List.drop_drop (i := 2) (j := pos) (l := input))
      rcases hexDigits?_eq_some hdigits with h | h <;>
      · have hlength := congrArg List.length h
        simp only [List.length_drop, List.length_cons] at hlength
        omega
    rw [if_pos hmark, hdigits]
    exact exists_hexAt? hlength
  · rw [if_neg hmark, hexDigits?_eq_ite, if_neg hmark]
    obtain ⟨hle, hdrop⟩ := drop_numberEnd hpos
    have hrun : slice? input pos (numberEnd input pos) =
        some (numberRun false (input.drop pos)).1 := by
      refine slice?_of_drop_eq_append hle ?_ (le_numberEnd input pos)
      rw [hdrop, numberRun_append]
    simp only [Nat.min_eq_left hle, hrun, Option.bind_some, ← hdrop]
    exact ⟨_, rfl, .ok _ hle⟩

theorem tracks_stringAt (quote : Char) :
    Tracks input (stringAt input quote pos) (cutString quote (input.drop (pos + 1))) := by
  have hread : cutString quote (input.drop (pos + 1)) =
      (orFault .unexpectedEndOfString (stringBody quote (input.drop (pos + 1)))).map
        (Prod.map .string id) := by
    rw [cutString]
    cases stringBody quote (input.drop (pos + 1)) <;> rfl
  rw [hread]
  exact (tracks_stringFrom quote).map _

theorem tracks_regexpAt : Tracks input (regexpAt input pos) (cutRegexp (input.drop (pos + 1))) := by
  have hread : cutRegexp (input.drop (pos + 1)) =
      (orFault .unexpectedEnd (regexpBody (input.drop (pos + 1)))).map fun read =>
        (.regexp read.1 (readFlags .none read.2).1, (readFlags .none read.2).2) := by
    rw [cutRegexp]
    cases regexpBody (input.drop (pos + 1)) <;> rfl
  have hsource : Tracks input (regexpFrom input (pos + 1)) _ := tracks_regexpFrom
  rw [hread, regexpAt]
  generalize regexpFrom input (pos + 1) = scanned at hsource ⊢
  generalize orFault .unexpectedEnd (regexpBody (input.drop (pos + 1))) = read at hsource ⊢
  cases hsource with
  | error fault => exact .error fault
  | @ok source stop hstop =>
    have hflags := tracks_flagsFrom .none hstop
    simp only [Except.map]
    generalize flagsFrom input .none stop = scanned at hflags ⊢
    generalize readFlags .none (input.drop stop) = read at hflags ⊢
    cases hflags with
    | ok flags hstop => exact .ok _ hstop

omit [Regex.Engine] in
theorem endsName_drop (rest : List Char) (n : Nat) :
    endsName (rest.drop n) = rest[n]?.all isBound := by
  rw [← List.head?_drop]
  cases rest.drop n <;> rfl

theorem readKeyword?_eq_map_find? (rest : List Char) :
    readKeyword? rest =
      (keywords.find? fun entry =>
        entry.1.toList.isPrefixOf rest && rest[entry.1.toList.length]?.all isBound).map
          fun entry => (entry.2, rest.drop entry.1.toList.length) := by
  refine findSome?_eq_map_find? (fun entry => ?_) keywords
  dsimp only
  rw [isPrefixOf?_eq_ite, ← endsName_drop]
  cases entry.1.toList.isPrefixOf rest <;> rfl

omit [Regex.Engine] in
theorem read?_eq_map_find? (cs : List Char) :
    Operator.read? cs =
      (Operator.readingTable.find? fun entry => entry.1.toList.isPrefixOf cs).map
        fun entry => (entry.2, cs.drop entry.1.toList.length) := by
  refine findSome?_eq_map_find? (fun entry => ?_) Operator.readingTable
  dsimp only
  rw [isPrefixOf?_eq_ite]
  cases entry.1.toList.isPrefixOf cs <;> rfl

theorem exists_keywordAt? (hpos : pos ≤ input.length) :
    ∃ scanned, keywordAt? input pos = some scanned ∧
      (scanned.map fun (value, stop) => (value, input.drop stop)) = readKeyword? (input.drop pos) ∧
      ∀ value stop, scanned = some (value, stop) → stop ≤ input.length := by
  rw [keywordAt?, slice?_length hpos, Option.bind_eq_bind, Option.bind_some,
    readKeyword?_eq_map_find?]
  refine ⟨_, rfl, ?_, fun value stop h => ?_⟩
  · rw [Option.map_map]
    simp only [Function.comp_def, List.drop_drop]
  · obtain ⟨entry, hentry, heq⟩ := Option.map_eq_some_iff.1 h
    cases heq
    have hfound := List.find?_some hentry
    have hle := (List.isPrefixOf_iff_prefix.1 (Bool.and_eq_true_iff.1 hfound).1).length_le
    rw [List.length_drop] at hle
    omega

theorem exists_variableAt? (hpos : pos ≤ input.length) :
    ∃ scanned, variableAt? input pos = some scanned ∧
      Tracks input scanned (cutVariable (input.drop pos)) := by
  obtain ⟨scanned, hscanned, heq, hbounds⟩ := exists_variableEnd? input pos hpos
  rw [variableAt?, hscanned, Option.bind_eq_bind, Option.bind_some, cutVariable]
  rw [behindPath] at heq
  cases hpath : variablePath 0 none (input.drop pos) with
  | error fault =>
    rw [hpath] at heq
    cases scanned with
    | ok stop => cases heq
    | error fault' =>
      cases heq
      exact ⟨_, rfl, .error _⟩
  | ok read =>
    rw [hpath] at heq
    obtain ⟨path, rest⟩ := read
    cases scanned with
    | error fault => cases heq
    | ok stop =>
      obtain rfl : rest = input.drop stop := Except.ok.inj heq
      obtain ⟨hle, hstop⟩ := hbounds stop rfl
      have hslice := slice?_of_drop_eq_append hstop (variablePath_append hpath) hle
      simp only [Nat.min_eq_left hstop, hslice]
      exact ⟨_, rfl, .ok _ hstop⟩

omit [Regex.Engine] in
theorem length_spelling_divide {entry : String × Operator} (hmem : entry ∈ Operator.readingTable)
    (hop : entry.2 = .arithmetic .divide) : entry.1.toList.length = 1 := by
  have hall : ∀ entry ∈ Operator.readingTable, entry.2 = .arithmetic .divide →
      entry.1.toList.length = 1 := by decide
  exact hall entry hmem hop

/-- The piece at the cursor is the one that is cut off the rest of the input. -/
theorem exists_cutAt? {c : Char} (operandExpected : Bool) (hc : input[pos]? = some c) :
    ∃ scanned, cutAt? input operandExpected c pos = some scanned ∧
      Tracks input scanned (cut operandExpected c (input.drop (pos + 1))) := by
  have hlt := lt_length_of_getElem? hc
  unfold cutAt? cut
  split
  · exact ⟨_, rfl, .ok _ hlt⟩
  split
  · exact ⟨_, rfl, .ok _ hlt⟩
  have hdrop := drop_eq_cons_of_getElem? hc
  rw [slice?_length hlt.le, Option.bind_eq_bind, Option.bind_some, ← hdrop, read?_eq_map_find?]
  cases hfind : Operator.readingTable.find? fun entry =>
      entry.1.toList.isPrefixOf (input.drop pos) with
  | some entry =>
    obtain ⟨spelling, op⟩ := entry
    have hfound := List.find?_some hfind
    have hle : spelling.toList.length ≤ (input.drop pos).length :=
      (List.isPrefixOf_iff_prefix.1 hfound).length_le
    have hstop : pos + spelling.toList.length ≤ input.length := by
      rw [List.length_drop] at hle
      omega
    simp only [Option.map_some, List.drop_drop]
    split
    · rename_i hdivide
      have hslash := length_spelling_divide (List.mem_of_find?_eq_some hfind) hdivide.2
      rw [hslash]
      exact ⟨_, rfl, tracks_regexpAt⟩
    split
    · exact ⟨_, rfl, .ok _ hstop⟩
    · exact ⟨_, rfl, .ok _ hstop⟩
  | none =>
    dsimp only [Option.map_none]
    split
    · exact exists_numberAt? hlt.le
    split
    · exact ⟨_, rfl, tracks_stringAt c⟩
    obtain ⟨scanned, hscanned, heq, hbound⟩ := exists_keywordAt? hlt.le
    rw [hscanned, ← heq, Option.bind_eq_bind, Option.bind_some]
    cases scanned with
    | some keyword => exact ⟨_, rfl, .ok _ (hbound _ _ rfl)⟩
    | none =>
      dsimp only [Option.map_none]
      split
      · exact exists_variableAt? hlt.le
      · exact ⟨_, rfl, .error _⟩

-- ════════════════════════════════════════════════════════════════════════
-- Tokens of the input
-- ════════════════════════════════════════════════════════════════════════

variable {decode : List Char → String}

/-- A token that is scanned is the one that is read, and ends behind its first character. -/
theorem exists_readAt? (decode : List Char → String) (operandExpected : Bool) {c : Char}
    (hc : input[pos]? = some c) :
    ∃ scanned read, readAt? decode input operandExpected c pos = some scanned ∧
      readUnits (fun units => some (decode units)) operandExpected c (input.drop (pos + 1)) =
        some read ∧
      Tracks input scanned read ∧ ∀ kind stop, scanned = .ok (kind, stop) → pos < stop := by
  obtain ⟨scanned, hscanned, htracks⟩ := exists_cutAt? operandExpected hc
  rw [readAt?, hscanned, readUnits]
  cases hcut : cut operandExpected c (input.drop (pos + 1)) with
  | error fault =>
    rw [hcut] at htracks
    cases htracks
    exact ⟨_, _, rfl, rfl, .error fault, by rintro _ _ ⟨⟩⟩
  | ok read =>
    rw [hcut] at htracks
    cases htracks with
    | @ok piece stop hstop =>
      obtain ⟨made, hmade⟩ :
          ∃ made, piece.kind? (fun units => some (decode units)) = some made := by
        cases piece <;> exact ⟨_, rfl⟩
      have hmoved : pos < stop := by
        have hle := (cut_suffix hcut).length_le
        have hlt := lt_length_of_getElem? hc
        rw [List.length_drop, List.length_drop] at hle
        omega
      simp only [made?, hmade, Option.bind_eq_bind, Option.bind_some, Option.map_some]
      cases made with
      | error fault => exact ⟨_, _, rfl, rfl, .error fault, by rintro _ _ ⟨⟩⟩
      | ok kind =>
        refine ⟨_, _, rfl, rfl, .ok kind hstop, ?_⟩
        rintro _ _ ⟨⟩
        exact hmoved

/-- What the next token is: none if nothing but separators is left, or else what is read of the
    rest behind them. The cursor is moved past the token, and to the end at the most. -/
inductive Steps (decode : List Char → String) (input : List Char) (operandExpected : Bool)
    (pos : Nat) : Except Error (Option (Token × Nat)) → Prop where
  | done (hdone : (input.drop pos).dropWhile Text.isSeparator = []) :
    Steps decode input operandExpected pos (.ok none)
  | fault {c : Char} {tail : List Char} {fault : LexFault}
    (hrest : (input.drop pos).dropWhile Text.isSeparator = c :: tail)
    (hread : readUnits (fun units => some (decode units)) operandExpected c tail =
      some (.error fault)) :
    Steps decode input operandExpected pos (.error (.lex fault
      (pos + ((input.drop pos).takeWhile Text.isSeparator).length)
      (decode (Text.word (c :: tail)))))
  | token {c : Char} {tail : List Char} {kind : TokenKind} {stop : Nat}
    (hrest : (input.drop pos).dropWhile Text.isSeparator = c :: tail)
    (hread : readUnits (fun units => some (decode units)) operandExpected c tail =
      some (.ok (kind, input.drop stop)))
    (hmoved : pos + ((input.drop pos).takeWhile Text.isSeparator).length < stop)
    (hstop : stop ≤ input.length) :
    Steps decode input operandExpected pos (.ok (some
      (⟨kind, pos + ((input.drop pos).takeWhile Text.isSeparator).length⟩, stop)))

/-- The next token is scanned as it is read. -/
theorem exists_nextToken? (decode : List Char → String) (operandExpected : Bool)
    (hpos : pos ≤ input.length) :
    ∃ scanned, nextToken? decode input operandExpected pos = some scanned ∧
      Steps decode input operandExpected pos scanned := by
  obtain ⟨hstart, hdrop⟩ := drop_advanceWhile Text.isSeparator hpos
  have heq := advanceWhile_eq Text.isSeparator hpos
  unfold nextToken?
  dsimp only
  generalize advanceWhile input Text.isSeparator pos = start at hstart hdrop heq ⊢
  subst heq
  split
  · rename_i hnone
    rw [drop_eq_nil_of_getElem? hnone] at hdrop
    exact ⟨_, rfl, .done hdrop.symm⟩
  · rename_i c hc
    have hrest := drop_eq_cons_of_getElem? hc
    rw [hrest] at hdrop
    obtain ⟨scanned, read, hscanned, hread, htracks, hmoved⟩ :=
      exists_readAt? decode operandExpected hc
    rw [hscanned, Option.bind_eq_bind, Option.bind_some]
    cases htracks with
    | error fault =>
      simp only [lastWord?_eq hstart, Option.bind_eq_bind, Option.bind_some, hrest]
      exact ⟨_, rfl, .fault hdrop.symm hread⟩
    | ok kind hstop => exact ⟨_, rfl, .token hdrop.symm hread (hmoved _ _ rfl) hstop⟩

/-- The cursor is moved past a token, and to the end at the most. -/
theorem Steps.moved {operandExpected : Bool} {t : Token} {stop : Nat}
    (h : Steps decode input operandExpected pos (.ok (some (t, stop)))) :
    pos < stop ∧ stop ≤ input.length := by
  cases h with
  | token hrest hread hmoved hstop =>
    exact ⟨Nat.lt_of_le_of_lt (Nat.le_add_right _ _) hmoved, hstop⟩

theorem tokensAt?_of_token {operandExpected : Bool} {t : Token} {stop : Nat}
    (h : nextToken? decode input operandExpected pos = some (.ok (some (t, stop))))
    (hmoved : pos < stop ∧ stop ≤ input.length) :
    tokensAt? decode input operandExpected pos =
      (tokensAt? decode input t.kind.expectsOperand stop).map (Except.map (t :: ·)) := by
  rw [tokensAt?, h]
  exact if_pos hmoved

/-- A scan of the tokens always comes to something. -/
theorem exists_tokensAt? (decode : List Char → String) (input : List Char)
    (operandExpected : Bool) (pos : Nat) (hpos : pos ≤ input.length) :
    ∃ scanned, tokensAt? decode input operandExpected pos = some scanned := by
  obtain ⟨scanned, hscanned, hsteps⟩ := exists_nextToken? decode operandExpected hpos
  match scanned, hscanned, hsteps with
  | .error e, hscanned, _ => exact ⟨.error e, by rw [tokensAt?, hscanned]⟩
  | .ok none, hscanned, _ => exact ⟨.ok [], by rw [tokensAt?, hscanned]⟩
  | .ok (some (t, stop)), hscanned, hsteps =>
    have hmoved := hsteps.moved
    obtain ⟨others, hothers⟩ := exists_tokensAt? decode input t.kind.expectsOperand stop hmoved.2
    exact ⟨_, by rw [tokensAt?_of_token hscanned hmoved, hothers, Option.map_some]⟩
termination_by input.length - pos

/-- What a scan of the tokens comes to is what is read of the rest of the input. -/
theorem tokensAt?_eq (decode : List Char → String) (operandExpected : Bool) (pos : Nat)
    (hpos : pos ≤ input.length) :
    tokensAt? decode input operandExpected pos =
      tokensFromUnits (fun units => some (decode units)) operandExpected pos (input.drop pos) := by
  obtain ⟨scanned, hscanned, hsteps⟩ := exists_nextToken? decode operandExpected hpos
  cases hsteps with
  | done hdone => rw [tokensAt?, hscanned, tokensFromUnits_of_dropWhile_eq_nil hdone]
  | fault hrest hread =>
    rw [tokensAt?, hscanned, tokensFromUnits_of_fault hrest hread]
    rfl
  | @token c tail kind stop hrest hread hmoved hstop =>
    have hforward : pos < stop := Nat.lt_of_le_of_lt (Nat.le_add_right _ _) hmoved
    -- the readers count what is taken, a cursor stands behind it
    have hbehind : pos + ((input.drop pos).takeWhile Text.isSeparator).length +
        ((c :: tail).length - (input.drop stop).length) = stop := by
      have hsplit := congrArg List.length
        (List.takeWhile_append_dropWhile (p := Text.isSeparator) (l := input.drop pos))
      rw [hrest, List.length_append, List.length_drop] at hsplit
      rw [List.length_drop]
      omega
    rw [tokensAt?_of_token hscanned ⟨hforward, hstop⟩, tokensFromUnits_of_readUnits hrest hread,
      hbehind, tokensAt?_eq decode kind.expectsOperand stop hstop]
termination_by input.length - pos

end Scanner

end ScalarExpr

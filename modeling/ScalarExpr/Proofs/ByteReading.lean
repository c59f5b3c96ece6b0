import ScalarExpr.Proofs.Canonical
import ScalarExpr.Proofs.OctetCuts
import ScalarExpr.Proofs.Tiling
import ScalarExpr.Regex.Dialect
/-!
# Bytes are read like characters

The tokens of the bytes of a text are those of the text, whatever the decoder does with
bytes that are not the UTF-8 form of a text: no such bytes are ever made into a text.

## Main definitions

- `TokenKind.chars` — the characters of the text in a token

## Main statements

- `Lexer.readUnits_octets`, `Lexer.tokensFromUnits_octets`: what is read of octets
- `tokenizeBytes_bytes`: bytes are read like characters, and made into the texts that the
  source spells
-/

namespace ScalarExpr

-- ════════════════════════════════════════════════════════════════════════
-- Separators and words
-- ════════════════════════════════════════════════════════════════════════

namespace Lexer

open Text

variable {c : Char}

theorem sameOnHigh_isSeparator : SameOnHigh isSeparator :=
  sameOnHigh_of_forall fun _ hc => hc.not_isSeparator

theorem word_octets (cs : List Char) : word (octets cs) = octets (word cs) := by
  refine takeWhile_octets (fun c d hc hd => ?_) cs
  rw [Bool.eq_false_iff.2 hc.not_isAsciiBlank, Bool.eq_false_iff.2 hd.not_isAsciiBlank]

theorem dropWhile_gap {gap : List Char} (hgap : ∀ c ∈ gap, isSeparator c) (hc : ¬ isSeparator c)
    (cs : List Char) :
    (octets (gap ++ c :: cs)).dropWhile isSeparator = octets (c :: cs) ∧
      ((octets (gap ++ c :: cs)).takeWhile isSeparator).length = byteLength gap := by
  rw [dropWhile_octets sameOnHigh_isSeparator, takeWhile_octets sameOnHigh_isSeparator,
    List.dropWhile_append_of_pos hgap, List.takeWhile_append_of_pos hgap,
    List.dropWhile_cons_of_neg hc, List.takeWhile_cons_of_neg hc, List.append_nil, length_octets]
  exact ⟨rfl, rfl⟩

end Lexer

section

variable [Regex.Engine]

namespace Lexer

open Text

variable {decode : List Char → Option String} {operandExpected : Bool} {offset : Nat} {c b : Char}
  {cs tail rest : List Char}

-- ════════════════════════════════════════════════════════════════════════
-- One token
-- ════════════════════════════════════════════════════════════════════════

/-- The decoder gives the text for the octets of each text. -/
def Decodes (decode : List Char → Option String) : Prop :=
  ∀ cs, decode (octets cs) = textOf cs

theorem Piece.kind?_octets (hdecode : Decodes decode) (piece : Piece) :
    piece.octets.kind? decode = piece.kind? textOf := by
  cases piece with
  | token kind => rfl
  | number run | string body | regexp source flags | «variable» path =>
    simp only [Piece.octets, Piece.kind?, hdecode _]

/-- The token at the head of octets is that of the text. -/
theorem readUnits_octets (hdecode : Decodes decode) (hoctets : octets (c :: cs) = b :: tail)
    (operandExpected : Bool) :
    readUnits decode operandExpected b tail =
      some ((readToken operandExpected c cs).map (Prod.map id octets)) := by
  have hread := readUnits_textOf operandExpected c cs
  rw [readUnits] at hread ⊢
  rw [cut_octets hoctets]
  cases hcut : cut operandExpected c cs with
  | error fault =>
    rw [hcut] at hread
    rw [← Option.some.inj hread]
    rfl
  | ok read =>
    obtain ⟨piece, rest⟩ := read
    rw [hcut, made?] at hread
    obtain ⟨made, hmade, hread⟩ := Option.map_eq_some_iff.1 hread
    simp only [Except.map, Prod.map, made?, piece.kind?_octets hdecode, hmade, Option.map_some,
      ← hread]
    cases made <;> rfl

-- ════════════════════════════════════════════════════════════════════════
-- All tokens
-- ════════════════════════════════════════════════════════════════════════

theorem tokensFromUnits_of_dropWhile_eq_nil (h : cs.dropWhile isSeparator = []) :
    tokensFromUnits decode operandExpected offset cs = some (.ok []) := by
  unfold tokensFromUnits
  split
  · rfl
  · rename_i hcs
    rw [h] at hcs
    cases hcs

theorem tokensFromUnits_of_fault {fault : LexFault} (hcs : cs.dropWhile isSeparator = c :: tail)
    (hread : readUnits decode operandExpected c tail = some (.error fault)) :
    tokensFromUnits decode operandExpected offset cs =
      (decode (word (c :: tail))).map fun text =>
        .error (.lex fault (offset + (cs.takeWhile isSeparator).length) text) := by
  unfold tokensFromUnits
  split
  · rename_i hcs'
    rw [hcs] at hcs'
    cases hcs'
  · rename_i c' tail' hcs'
    rw [hcs] at hcs'
    cases hcs'
    split
    · rename_i hnone
      rw [hread] at hnone
      cases hnone
    · rename_i fault' hfault
      rw [hread] at hfault
      cases hfault
      rfl
    · rename_i kind rest hkind
      rw [hread] at hkind
      cases hkind

theorem tokensFromUnits_of_readUnits {kind : TokenKind}
    (hcs : cs.dropWhile isSeparator = c :: tail)
    (hread : readUnits decode operandExpected c tail = some (.ok (kind, rest))) :
    tokensFromUnits decode operandExpected offset cs =
      (tokensFromUnits decode kind.expectsOperand
        (offset + (cs.takeWhile isSeparator).length + ((c :: tail).length - rest.length)) rest).map
        (Except.map (⟨kind, offset + (cs.takeWhile isSeparator).length⟩ :: ·)) := by
  conv =>
    lhs
    unfold tokensFromUnits
  split
  · rename_i hcs'
    rw [hcs] at hcs'
    cases hcs'
  · rename_i c' tail' hcs'
    rw [hcs] at hcs'
    cases hcs'
    split
    · rename_i hnone
      rw [hread] at hnone
      cases hnone
    · rename_i fault hfault
      rw [hread] at hfault
      cases hfault
    · rename_i kind' rest' hkind
      rw [hread] at hkind
      cases hkind
      rfl

/-- The octets of a text are read as the tokens of the text. -/
theorem tokensFromUnits_octets (hdecode : Decodes decode)
    (operandExpected : Bool) (offset : Nat) (cs : List Char) :
    tokensFromUnits decode operandExpected offset (octets cs) =
      some (tokensFrom operandExpected offset cs) := by
  have hrun := reads_tokensFrom operandExpected offset cs
  generalize tokensFrom operandExpected offset cs = result at hrun ⊢
  induction hrun with
  | @done _ _ gap hgap =>
    apply tokensFromUnits_of_dropWhile_eq_nil
    rw [dropWhile_octets sameOnHigh_isSeparator, ← List.append_nil gap,
      List.dropWhile_append_of_pos hgap]
    rfl
  | @fault operandExpected offset gap behind c fault hgap hc hread =>
    obtain ⟨b, tail, hoctets, _⟩ := exists_head_octets c behind
    obtain ⟨hdrop, htake⟩ := dropWhile_gap hgap hc behind
    have hfault : readUnits decode operandExpected b tail = some (.error fault) := by
      rw [readUnits_octets hdecode hoctets, hread]
      rfl
    rw [hoctets] at hdrop
    rw [tokensFromUnits_of_fault hdrop hfault, htake, ← hoctets, word_octets, hdecode]
    rfl
  | @token operandExpected offset gap tail rest c kind result hgap hc hread _ ih =>
    obtain ⟨b, units, hoctets, _⟩ := exists_head_octets c (tail ++ rest)
    obtain ⟨hdrop, htake⟩ := dropWhile_gap hgap hc (tail ++ rest)
    have hkind : readUnits decode operandExpected b units = some (.ok (kind, octets rest)) := by
      rw [readUnits_octets hdecode hoctets, hread]
      rfl
    have hsize : (b :: units).length - (octets rest).length = byteLength (c :: tail) := by
      rw [← hoctets, length_octets, length_octets, ← List.cons_append, byteLength_append]
      omega
    rw [hoctets] at hdrop
    rw [List.cons_append, tokensFromUnits_of_readUnits hdrop hkind, htake, hsize, ih]
    rfl

end Lexer

-- ════════════════════════════════════════════════════════════════════════
-- The texts in tokens
-- ════════════════════════════════════════════════════════════════════════

namespace TokenKind

/-- The characters of the text in a token. -/
def chars : TokenKind → List Char
  | .literal (.string s) => s.toList
  | .literal (.regexp r) => r.source.toList
  | .variable path => path.toList
  | _ => []

/-- What is taken for the token spells the text in it: between quotes less the backslashes
    of pairs, between slashes less those before slashes, or as it is for a variable. -/
def SpelledAs (taken : List Char) : TokenKind → Prop
  | .literal (.string s) => ∃ quote written, (quote = '"' ∨ quote = '\'') ∧
    taken = quote :: (written ++ [quote]) ∧ Lexer.Unescapes quote written s.toList
  | .literal (.regexp r) => ∃ written letters,
    taken = '/' :: (written ++ '/' :: letters) ∧ Lexer.Unslashes written r.source.toList
  | .variable path => taken = path.toList
  | _ => True

theorem SpelledAs.chars_subset {taken : List Char} {kind : TokenKind} (h : kind.SpelledAs taken) :
    kind.chars ⊆ taken := by
  cases kind with
  | literal value =>
    cases value with
    | string s =>
      obtain ⟨quote, written, _, rfl, hwritten⟩ := h
      intro c hc
      simp [hwritten.subset hc]
    | regexp r =>
      obtain ⟨written, letters, rfl, hwritten⟩ := h
      intro c hc
      simp [hwritten.subset hc]
    | number | boolean | null | undefined => exact List.nil_subset _
  | «variable» path => exact fun c hc => h ▸ hc
  | operator | leftParen | rightParen => exact List.nil_subset _

end TokenKind

namespace Lexer

variable {operandExpected : Bool} {c : Char} {cs tail rest : List Char}

theorem spelledAs_of_readToken {kind : TokenKind}
    (h : readToken operandExpected c cs = .ok (kind, rest)) (hcs : cs = tail ++ rest) :
    kind.SpelledAs (c :: tail) := by
  cases readBy_of_readToken h with
  | leftParen | rightParen | operator | negation => trivial
  | regexp _ hread hvalue =>
    obtain ⟨rfl, rfl⟩ := eq_slash_of_read? hread
    simp only [readRegexp] at hvalue
    split at hvalue
    · cases hvalue
    · rename_i body behind hbody
      split at hvalue
      · rename_i r hr
        cases hvalue
        obtain ⟨written, hsplit, hwritten⟩ := exists_unslashes_of_regexpBody hbody
        obtain ⟨letters, hletters⟩ := readFlags_suffix .none behind
        refine ⟨written, letters, congrArg _ (List.append_cancel_right (hcs.symm.trans ?_)),
          ?_⟩
        · rw [List.append_assoc, List.cons_append, hletters]
          exact hsplit
        · rw [(Regexp.ofSource?_eq_some_iff.1 hr).1, String.toList_ofList]
          exact hwritten
      · cases hvalue
  | number hdigit hvalue =>
    obtain ⟨num, den, rfl⟩ := exists_ofUnits_of_readNumber hdigit hvalue
    trivial
  | string hquote hvalue =>
    unfold readString at hvalue
    split at hvalue
    · rename_i body behind hbody
      cases hvalue
      obtain ⟨written, hsplit, hwritten⟩ := exists_unescapes_of_stringBody hbody
      have htail : tail = written ++ [c] := by
        apply List.append_cancel_right (hcs.symm.trans ?_)
        rw [List.append_assoc]
        exact hsplit
      refine ⟨c, written, hquote, by rw [htail], ?_⟩
      rwa [String.toList_ofList]
    · cases hvalue
  | keyword hread =>
    obtain ⟨word, hentry, _⟩ := exists_word_of_readKeyword? hread
    simp only [keywords, List.mem_cons, Prod.mk.injEq, List.not_mem_nil, or_false] at hentry
    rcases hentry with ⟨_, rfl⟩ | ⟨_, rfl⟩ | ⟨_, rfl⟩ <;> trivial
  | «variable» _ _ hpath =>
    have happend := variablePath_append hpath
    rw [hcs, ← List.cons_append] at happend
    exact List.append_cancel_right happend

end Lexer

end

open Lexer

/-- The decoder that refuses what is not UTF-8 takes the bytes of every text. -/
theorem fromUTF8?_bytes (s : String) :
    String.fromUTF8? (Text.bytes s.toList).toByteArray = some s := by
  have hbytes : (Text.bytes s.toList).toByteArray = s.toByteArray := by
    have hencode := String.toByteArray_ofList (l := s.toList)
    rw [String.ofList_toList] at hencode
    exact hencode.symm
  rw [hbytes, String.fromUTF8?, dif_pos s.isValidUTF8]
  rfl

/-- The bytes of a text are read as the text. A decoder that takes nothing but UTF-8 takes
    all that the tokens and the error are made of, and so does each decoder that knows
    UTF-8, whatever it makes of other bytes. A token stands in the text as it is spelled
    and holds no character that does not stand there, no replacement character either. -/
theorem tokenizeBytes_bytes [Regex.Engine] (text : String) :
    tokenizeBytes (fun bytes => String.fromUTF8? bytes.toByteArray) (Text.bytes text.toList) =
      some (tokenize text) ∧
    (∀ decode : List UInt8 → Option String,
      (∀ s : String, decode (Text.bytes s.toList) = some s) →
      tokenizeBytes decode (Text.bytes text.toList) = some (tokenize text)) ∧
    ∀ tokens, tokenize text = .ok tokens → ∀ t ∈ tokens,
      ∃ taken, Text.StandsAt taken text.toList t.offset ∧ t.kind.SpelledAs taken ∧
        ∀ c ∈ t.kind.chars, c ∈ taken := by
  have hdecoded : ∀ decode : List UInt8 → Option String,
      (∀ s : String, decode (Text.bytes s.toList) = some s) →
      tokenizeBytes decode (Text.bytes text.toList) = some (tokenize text) := by
    intro decode hdecode
    refine tokensFromUnits_octets (fun cs => ?_) true 0 text.toList
    have hcs := hdecode (String.ofList cs)
    rw [String.toList_ofList] at hcs
    rw [Text.unoctets_octets, hcs]
    rfl
  refine ⟨hdecoded _ fromUTF8?_bytes, hdecoded, fun tokens htokens t ht => ?_⟩
  obtain ⟨earlier, later, rfl⟩ := List.append_of_mem ht
  have htiled : Tiled true [] text.toList (earlier ++ t :: later) := tiled_of_tokensFrom htokens
  obtain ⟨front, c, tail, rest, hsplit, hfront, _, hread, _⟩ := htiled.exists_front
  have hspelled := spelledAs_of_readToken hread rfl
  refine ⟨c :: tail, ⟨front, rest, ?_, hfront⟩, hspelled, hspelled.chars_subset⟩
  rw [List.append_assoc]
  exact hsplit

/-- A backslash before a character of two bytes takes the first one along, which is no text
    by itself; with a decoder that puts a replacement character there, none is put. -/
theorem tokenizeBytes_bytes_of_split :
    let lossy : List UInt8 → Option String := fun bytes =>
      some ((String.fromUTF8? bytes.toByteArray).getD "\uFFFD")
    let tokens : List Token :=
      [⟨.literal (.string "\\é"), 0⟩, ⟨.operator (.arithmetic .plus), 5⟩, ⟨.variable "$.é", 6⟩]
    Text.bytes ['\\', 'é'] = [0x5C, 0xC3, 0xA9] ∧ lossy [0x5C, 0xC3] = some "\uFFFD" ∧
      (∀ s : String, lossy (Text.bytes s.toList) = some s) ∧
      tokenizeBytes lossy (Text.bytes "'\\é'+$.é".toList) = some (.ok tokens) ∧
      ∃ taken, Text.StandsAt taken "'\\é'+$.é".toList 6 ∧
        (TokenKind.variable "$.é").SpelledAs taken ∧
        ∀ c ∈ (TokenKind.variable "$.é").chars, c ∈ taken := by
  intro lossy tokens
  have hlossy : ∀ s : String, lossy (Text.bytes s.toList) = some s := by
    intro s
    simp only [lossy, fromUTF8?_bytes, Option.getD_some]
  have htext : "'\\é'+$.é".toList = ['\'', '\\', 'é', '\'', '+', '$', '.', 'é'] := by
    decide +kernel
  have htokens : tokenize "'\\é'+$.é" = .ok tokens := by
    rw [tokenize, htext]
    exact tokensFrom_eq_cons rfl rfl <| tokensFrom_eq_cons rfl rfl <|
      tokensFrom_eq_cons rfl rfl tokensFrom_nil
  obtain ⟨_, hdecoded, hspelled⟩ := tokenizeBytes_bytes "'\\é'+$.é"
  refine ⟨by decide, by decide +kernel, hlossy, ?_, ?_⟩
  · rw [hdecoded lossy hlossy, htokens]
  · exact hspelled tokens htokens ⟨.variable "$.é", 6⟩ (by simp [tokens])

end ScalarExpr

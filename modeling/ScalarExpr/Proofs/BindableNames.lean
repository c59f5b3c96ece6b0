import ScalarExpr.Proofs.Names
import ScalarExpr.Proofs.OctetCuts
/-!
# Which names can be bound

A name ends at white space of ASCII, a comma, a parenthesis, an opening bracket, or a byte
that some operator starts with. All these are in ASCII, so that no byte of a longer character
is one of them, and a name can be looked at byte by byte. It can be bound exactly if it starts
with a letter, has none of these bytes and is no keyword, and that is so exactly if it is read
whole, as one variable.

## Main definitions

- `Lexer.IsBoundByte` — the bytes at which a name ends
- `Scope.IsBindable` — the names that can be bound, by their bytes

## Main statements

- `Lexer.forall_not_isBoundByte_iff`: a name by its bytes and by its characters
- `Scope.exists_set_iff`: which names can be bound
-/

namespace ScalarExpr

namespace Text

variable {c : Char} {cs : List Char} {b : UInt8}

-- ════════════════════════════════════════════════════════════════════════
-- Bytes of ASCII
-- ════════════════════════════════════════════════════════════════════════

/-- A byte is among those of some characters of ASCII exactly if it is one of them. -/
theorem mem_map_toUInt8_iff (h : ∀ c ∈ cs, ¬ IsHigh c) :
    b ∈ cs.map Char.toUInt8 ↔ Char.ofUInt8 b ∈ cs := by
  rw [List.mem_map]
  constructor
  · rintro ⟨c, hc, rfl⟩
    rwa [ofUInt8_toUInt8 (h c hc)]
  · intro hb
    exact ⟨_, hb, toUInt8_ofUInt8 b⟩

/-- A text of ASCII starts with the byte that its first character is. -/
theorem head?_bytes_eq_some_iff (h : ∀ c ∈ cs, ¬ IsHigh c) :
    (bytes cs).head? = some b ↔ cs.head? = some (Char.ofUInt8 b) := by
  have hinjective {a b : UInt8} (heq : Char.ofUInt8 a = Char.ofUInt8 b) : a = b := by
    rw [← toUInt8_ofUInt8 a, heq, toUInt8_ofUInt8]
  rw [← congrArg List.head? (octets_eq_self h), octets, List.head?_map]
  constructor
  · intro hhead
    rw [hhead, Option.map_some]
  · intro hhead
    obtain ⟨a, ha, hab⟩ := Option.map_eq_some_iff.1 hhead
    rw [ha, hinjective hab]

end Text

namespace Lexer

open Text

-- ════════════════════════════════════════════════════════════════════════
-- Bytes at which a name ends
-- ════════════════════════════════════════════════════════════════════════

/-- White space of ASCII, a comma, a parenthesis, an opening bracket, or the first byte of
    some spelling of an operator. -/
def IsBoundByte (b : UInt8) : Prop :=
  b ∈ [' ', '\t', '\n', '\x0c', '\r', ',', '(', ')', '['].map Char.toUInt8 ∨
    ∃ entry ∈ Operator.readingTable, (Text.bytes entry.1.toList).head? = some b

theorem isStart_ofUInt8_iff (b : UInt8) :
    Operator.isStart (Char.ofUInt8 b) ↔
      ∃ entry ∈ Operator.readingTable, (Text.bytes entry.1.toList).head? = some b := by
  rw [Operator.isStart, List.any_eq_true]
  refine exists_congr fun entry => and_congr_right fun hentry => ?_
  rw [decide_eq_true_iff, head?_bytes_eq_some_iff (not_isHigh_of_mem_spelling entry hentry)]

theorem isBoundByte_iff (b : UInt8) : IsBoundByte b ↔ isBound (Char.ofUInt8 b) := by
  have hlow : ∀ c ∈ [' ', '\t', '\n', '\x0c', '\r', ',', '(', ')', '['], ¬ IsHigh c :=
    not_isHigh_of_all (by decide)
  rw [IsBoundByte, mem_map_toUInt8_iff hlow, ← isStart_ofUInt8_iff]
  simp only [isBound, isSeparator, isAsciiBlank, List.mem_cons, List.not_mem_nil, or_false,
    Bool.or_eq_true, decide_eq_true_iff]
  grind

/-- No byte of a text ends a name exactly if no character does. -/
theorem forall_not_isBoundByte_iff (cs : List Char) :
    (∀ b ∈ Text.bytes cs, ¬ IsBoundByte b) ↔ ∀ c ∈ cs, ¬ isBound c := by
  have hsame : SameOnHigh isBound := sameOnHigh_of_forall fun c hc => not_isBound_of_isHigh hc
  rw [← hsame.forall_octets_iff, octets, List.forall_mem_map]
  exact forall₂_congr fun b _ => not_congr (isBoundByte_iff b)

theorem lookup_keywords_eq_none_iff [Regex.Engine] (name : String) :
    keywords.lookup name = none ↔ name ∉ ["true", "false", "null"] := by
  rw [List.lookup_eq_none_iff]
  simp [keywords]

end Lexer

namespace Scope

open Lexer

variable [Regex.Engine] {name : String}

-- ════════════════════════════════════════════════════════════════════════
-- Names that can be bound
-- ════════════════════════════════════════════════════════════════════════

/-- A letter first, no byte at which a name ends, and no keyword. -/
structure IsBindable (name : String) : Prop where
  first : ∃ c, name.toList.head? = some c ∧ c.isAlpha
  bytes : ∀ b ∈ Text.bytes name.toList, ¬ IsBoundByte b
  word : name ∉ ["true", "false", "null"]

theorem isBindable_iff (name : String) :
    IsBindable name ↔ IsName name.toList ∧ keywords.lookup name = none := by
  rw [lookup_keywords_eq_none_iff]
  constructor
  · intro h
    exact ⟨⟨h.first, (forall_not_isBoundByte_iff name.toList).1 h.bytes⟩, h.word⟩
  · rintro ⟨hname, hword⟩
    exact ⟨hname.first, (forall_not_isBoundByte_iff name.toList).2 hname.unbound, hword⟩

theorem exists_set_eq_ok_iff (scope : Scope) (name : String) (value : Operand) :
    (∃ scope', scope.set name value = .ok scope') ↔ isBindingName name := by
  rw [set]
  split <;> simp_all

/-- A name is bound exactly if it starts with a letter, has no byte of white space of ASCII, of
    a comma, a parenthesis or an opening bracket and none that an operator starts with, and is
    no keyword. Beyond the letter and the bracket this asks for nothing but that the whole name
    is read as one variable. -/
theorem exists_set_iff (scope : Scope) (name : String) (value : Operand) :
    ((∃ scope', scope.set name value = .ok scope') ↔ IsBindable name) ∧
      (IsBindable name ↔
        (∃ c, name.toList.head? = some c ∧ c.isAlpha) ∧ '[' ∉ name.toList ∧
          tokenize name = .ok [⟨.variable name, 0⟩]) := by
  constructor
  · rw [exists_set_eq_ok_iff, isBindingName_iff, isBindable_iff]
  · rw [isBindable_iff]
    constructor
    · rintro ⟨hname, hword⟩
      have hbracket : '[' ∉ name.toList := fun hmem => hname.unbound _ hmem rfl
      exact ⟨hname.first, hbracket, tokenize_of_isName hname hword⟩
    · rintro ⟨⟨c, hhead, halpha⟩, hbracket, htokens⟩
      obtain ⟨tail, hcons⟩ := List.head?_eq_some_iff.1 hhead
      exact isName_of_tokenize htokens hcons halpha hbracket

end Scope

end ScalarExpr

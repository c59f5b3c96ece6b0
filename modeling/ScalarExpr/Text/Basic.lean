import ScalarExpr.Unicode.Blank
/-!
# Texts as lists of characters

Texts are read character by character; positions in them are counted in the
bytes of their UTF-8 form.

## Main definitions

- `Text.byteLength` — the size of a text in bytes
- `Text.units16` — its length in 16-bit units
- `Text.bytes`, `Text.order` — its bytes, and the order of texts by bytes
- `Text.trim`, `Text.trimEnd` — white space cut off, at both ends or the last
- `Text.isSeparator` — the characters that stand between tokens
-/

namespace ScalarExpr

namespace Text

/-- The number of bytes in the UTF-8 form. -/
def byteLength : List Char → Nat
  | [] => 0
  | c :: cs => c.utf8Size + byteLength cs

/-- The number of 16-bit units: two for a character past U+FFFF. -/
def units16 : List Char → Nat
  | [] => 0
  | c :: cs => (if c.toNat < 0x10000 then 1 else 2) + units16 cs

/-- The UTF-8 form. -/
def bytes (cs : List Char) : List UInt8 := cs.flatMap String.utf8EncodeChar

/-- The order of two texts is that of their bytes. -/
def order (a b : List Char) : Ordering := compare (bytes a) (bytes b)

/-- The text without the white space at its end. -/
def trimEnd (cs : List Char) : List Char := (cs.reverse.dropWhile Unicode.isBlank).reverse

/-- The text without the white space around it. -/
def trim (cs : List Char) : List Char := trimEnd (cs.dropWhile Unicode.isBlank)

/-- White space within ASCII: space, tab, line feed, form feed and carriage
    return. The vertical tab is not among them. -/
def isAsciiBlank (c : Char) : Bool :=
  c = ' ' || c = '\t' || c = '\n' || c = '\x0c' || c = '\r'

/-- ASCII white space and commas separate tokens and mean nothing else. -/
def isSeparator (c : Char) : Bool := isAsciiBlank c || c = ','

/-- The text up to the first ASCII white space. -/
def word (cs : List Char) : List Char := cs.takeWhile fun c => !isAsciiBlank c

@[simp] theorem byteLength_nil : byteLength [] = 0 := rfl

@[simp] theorem byteLength_cons (c : Char) (cs : List Char) :
    byteLength (c :: cs) = c.utf8Size + byteLength cs := rfl

@[simp] theorem byteLength_append (a b : List Char) :
    byteLength (a ++ b) = byteLength a + byteLength b := by
  induction a with
  | nil => simp
  | cons c a ih => rw [List.cons_append, byteLength_cons, byteLength_cons, ih, Nat.add_assoc]

/-- Cutting off an initial part leaves the rest. -/
theorem eq_append_of_isPrefixOf? {a b rest : List Char} (h : a.isPrefixOf? b = some rest) :
    b = a ++ rest := by
  induction a generalizing b with
  | nil => exact Option.some.inj h
  | cons c a ih =>
    cases b with
    | nil => exact nomatch h
    | cons d b =>
      have hif : (if c == d then a.isPrefixOf? b else none) = some rest := h
      by_cases hcd : c == d
      · rw [if_pos hcd] at hif
        rw [ih hif, eq_of_beq hcd, List.cons_append]
      · rw [if_neg hcd] at hif
        exact nomatch hif

theorem trimEnd_prefix (cs : List Char) : trimEnd cs <+: cs := by
  have hsuffix := List.dropWhile_suffix (l := cs.reverse) Unicode.isBlank
  rw [← List.reverse_prefix, List.reverse_reverse] at hsuffix
  exact hsuffix

theorem trimEnd_cons {c : Char} (h : ¬ Unicode.isBlank c) (cs : List Char) :
    trimEnd (c :: cs) = c :: trimEnd cs := by
  rw [trimEnd, List.reverse_cons, List.dropWhile_append]
  split
  · rename_i hempty
    rw [List.dropWhile_cons_of_neg h, trimEnd, List.isEmpty_iff.1 hempty]
    rfl
  · rw [List.reverse_append, trimEnd]
    rfl

theorem trimEnd_append_singleton {c : Char} (h : ¬ Unicode.isBlank c) (cs : List Char) :
    trimEnd (cs ++ [c]) = cs ++ [c] := by
  rw [trimEnd, List.reverse_append, List.reverse_singleton, List.singleton_append,
    List.dropWhile_cons_of_neg h, List.reverse_cons, List.reverse_reverse]

theorem trimEnd_append {tail : List Char} (hne : tail ≠ [])
    (htail : ∀ c ∈ tail, ¬ Unicode.isBlank c) (cs : List Char) :
    trimEnd (cs ++ tail) = cs ++ tail := by
  rw [← List.dropLast_concat_getLast hne, ← List.append_assoc]
  exact trimEnd_append_singleton (htail _ (List.getLast_mem hne)) _

/-- A text without white space is left as it is. -/
theorem trim_eq_self {cs : List Char} (h : ∀ c ∈ cs, ¬ Unicode.isBlank c) : trim cs = cs := by
  cases cs with
  | nil => rfl
  | cons c cs =>
    rw [trim, List.dropWhile_cons_of_neg (h c List.mem_cons_self)]
    exact trimEnd_append (List.cons_ne_nil c cs) h []

end Text

end ScalarExpr

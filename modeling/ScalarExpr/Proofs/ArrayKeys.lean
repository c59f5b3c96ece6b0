import Mathlib.Data.List.Forall2
import ScalarExpr.Proofs.Addresses
import ScalarExpr.Proofs.Numerals
import ScalarExpr.Regex.Dialect
/-!
# Names of items

The items of an array have names as the members of an object have: a name that spells
a position in decimal digits stands for the item there. The digits may have zeros and a
plus sign before them, so an item has many names; only one of them is the decimal that
stands for the position in a path.

## Main definitions

- `Document.SpellsPosition` — a name that spells a position
- `Document.part?` — the part of a document that steps lead to
- `Segment.Renamed` — a step, with an index as a name or not

## Main statements

- `Document.arrayPosition?_eq_some_iff`: the names that stand for an item
- `Document.walk_append`: what steps lead to, from the part that the first of them lead to
- `Document.walk_renamed`: an index and its decimal lead to the same
- `Document.walk_key`: what a name leads to in an array
-/

namespace ScalarExpr

-- ════════════════════════════════════════════════════════════════════════
-- Digits and the decimal of their number
-- ════════════════════════════════════════════════════════════════════════

namespace Decimal

theorem digitChar_of_isDigit {c : Char} (h : c.isDigit) :
    c.toNat - '0'.toNat < 10 ∧ Nat.digitChar (c.toNat - '0'.toNat) = c := by
  obtain ⟨hfirst, hlast⟩ := Char.isDigit_iff_toNat.1 h
  have hzero : '0'.toNat = 48 := rfl
  have hnine : '9'.toNat = 57 := rfl
  have hlt : c.toNat - '0'.toNat < 10 := by omega
  refine ⟨hlt, Char.toNat_inj.1 ?_⟩
  rw [Nat.toNat_digitChar_of_lt_ten hlt]
  omega

/-- Digits behind a number that is not zero are its last digits. -/
theorem toDigits_append_of_pos {n : Nat} (hn : 0 < n) {digits : List Char}
    (h : ∀ c ∈ digits, c.isDigit) :
    Nat.toDigits 10 n ++ digits = Nat.toDigits 10 (Nat.ofDigitChars 10 digits n) := by
  induction digits generalizing n with
  | nil => rw [List.append_nil, Nat.ofDigitChars_nil]
  | cons c digits ih =>
    obtain ⟨hlt, hchar⟩ := digitChar_of_isDigit (h c List.mem_cons_self)
    have hlast := Nat.toDigits_append_toDigits (by decide : 1 < 10) hn hlt
    rw [Nat.toDigits_of_lt_base hlt, hchar] at hlast
    rw [Nat.ofDigitChars_cons, ← ih (by omega) fun c' hc' => h c' (List.mem_cons_of_mem c hc'),
      ← hlast, List.append_assoc, List.singleton_append]

/-- Digits are the decimal of the number that they spell, with zeros before it. -/
theorem exists_replicate_append_toDigits {digits : List Char} (hne : digits ≠ [])
    (h : ∀ c ∈ digits, c.isDigit) :
    ∃ zeros, digits = List.replicate zeros '0' ++
      Nat.toDigits 10 (Nat.ofDigitChars 10 digits 0) := by
  induction digits with
  | nil => exact absurd rfl hne
  | cons c digits ih =>
    have hdigits : ∀ d ∈ digits, d.isDigit := fun d hd => h d (List.mem_cons_of_mem c hd)
    rw [Nat.ofDigitChars_cons, Nat.mul_zero, Nat.zero_add]
    by_cases hzero : c = '0'
    · subst hzero
      by_cases hlast : digits = []
      · subst hlast
        exact ⟨0, rfl⟩
      · obtain ⟨zeros, heq⟩ := ih hlast hdigits
        refine ⟨zeros + 1, ?_⟩
        rw [List.replicate_succ, List.cons_append]
        exact congrArg ('0' :: ·) heq
    · obtain ⟨hlt, hchar⟩ := digitChar_of_isDigit (h c List.mem_cons_self)
      have hpos : 0 < c.toNat - '0'.toNat := by
        refine Nat.pos_of_ne_zero fun hnull => hzero ?_
        rw [hnull] at hchar
        exact hchar.symm
      refine ⟨0, ?_⟩
      rw [List.replicate_zero, List.nil_append, ← toDigits_append_of_pos hpos hdigits,
        Nat.toDigits_of_lt_base hlt, hchar, List.singleton_append]

/-- A decimal is digits, one at least, that are read back as the number. -/
theorem exists_toDigits_eq_cons (n : Nat) : ∃ c digits, Nat.toDigits 10 n = c :: digits ∧
    c.isDigit ∧ (∀ d ∈ digits, d.isDigit) ∧ Nat.ofDigitChars 10 (c :: digits) 0 = n := by
  obtain ⟨c, digits, heq⟩ := List.exists_cons_of_ne_nil (Nat.toDigits_ne_nil (n := n) (b := 10))
  have hdigits : ∀ d ∈ c :: digits, d.isDigit := fun d hd => isDigit_of_mem_toDigits (heq ▸ hd)
  refine ⟨c, digits, heq, hdigits c List.mem_cons_self,
    fun d hd => hdigits d (List.mem_cons_of_mem c hd), ?_⟩
  rw [← heq, Nat.ofDigitChars_ten_toDigits]

/-- Only the decimal of zero starts with a zero. -/
theorem eq_nil_of_toDigits_eq_cons {n : Nat} {digits : List Char}
    (h : Nat.toDigits 10 n = '0' :: digits) : digits = [] := by
  by_contra hne
  have hdigits : ∀ c ∈ digits, c.isDigit := fun c hc =>
    isDigit_of_mem_toDigits (h ▸ List.mem_cons_of_mem '0' hc)
  have hvalue : Nat.ofDigitChars 10 digits 0 = n :=
    calc Nat.ofDigitChars 10 digits 0
        = Nat.ofDigitChars 10 ('0' :: digits) 0 := rfl
      _ = n := by rw [← h, Nat.ofDigitChars_ten_toDigits]
  obtain ⟨zeros, heq⟩ := exists_replicate_append_toDigits hne hdigits
  have hshorter := congrArg List.length heq
  rw [hvalue, h, List.length_append, List.length_cons] at hshorter
  omega

end Decimal

namespace Document

-- ════════════════════════════════════════════════════════════════════════
-- The names of a position
-- ════════════════════════════════════════════════════════════════════════

/-- The name is the decimal of a position, with zeros and a plus sign before it or not. -/
def SpellsPosition (name : String) (i : Nat) : Prop :=
  ∃ sign zeros, Numeral.Sign false sign ∧
    name.toList = sign ++ (List.replicate zeros '0' ++ Nat.toDigits 10 i)

theorem exists_sign_of_arrayPosition? {name : String} {i : Nat} (h : arrayPosition? name = some i) :
    ∃ sign digits, Numeral.Sign false sign ∧ name.toList = sign ++ digits ∧ digits ≠ [] ∧
      (∀ c ∈ digits, c.isDigit) ∧ Nat.ofDigitChars 10 digits 0 = i := by
  have hread : ∀ digits : List Char, (if digits ≠ [] ∧ digits.all Char.isDigit then
      some (Nat.ofDigitChars 10 digits 0) else none) = some i →
      digits ≠ [] ∧ (∀ c ∈ digits, c.isDigit) ∧ Nat.ofDigitChars 10 digits 0 = i := by
    intro digits hif
    split at hif
    · rename_i hall
      exact ⟨hall.1, List.all_eq_true.1 hall.2, Option.some.inj hif⟩
    · cases hif
  simp only [arrayPosition?] at h
  split at h
  · rename_i digits hname
    exact ⟨_, digits, .plus, hname, hread digits h⟩
  · exact ⟨_, _, .absent, rfl, hread _ h⟩

/-- A name stands for an item of an array exactly if it spells the position of the item. -/
theorem arrayPosition?_eq_some_iff {name : String} {i : Nat} :
    arrayPosition? name = some i ↔ SpellsPosition name i := by
  constructor
  · intro h
    obtain ⟨sign, digits, hsign, hname, hne, hdigits, rfl⟩ := exists_sign_of_arrayPosition? h
    obtain ⟨zeros, heq⟩ := Decimal.exists_replicate_append_toDigits hne hdigits
    exact ⟨sign, zeros, hsign, by rw [← heq, hname]⟩
  · rintro ⟨sign, zeros, hsign, hname⟩
    have hne : List.replicate zeros '0' ++ Nat.toDigits 10 i ≠ [] := fun h =>
      Nat.toDigits_ne_nil (List.append_eq_nil_iff.1 h).2
    have hdigits : ∀ c ∈ List.replicate zeros '0' ++ Nat.toDigits 10 i, c.isDigit := by
      intro c hc
      rcases List.mem_append.1 hc with hc | hc
      · rw [(List.mem_replicate.1 hc).2]
        rfl
      · exact Decimal.isDigit_of_mem_toDigits hc
    rw [arrayPosition?_of_sign hsign hne hdigits hname, Nat.ofDigitChars_append,
      Nat.ofDigitChars_replicate_zero, Nat.mul_zero, Nat.ofDigitChars_ten_toDigits]

/-- The name has no plus sign, and no zero before another digit. -/
def IsPlain (name : String) : Prop :=
  name.toList.head? ≠ some '+' ∧ (name.toList.head? = some '0' → name = "0")

theorem spellsPosition_toString (i : Nat) : SpellsPosition (toString i) i :=
  ⟨[], 0, .absent, Nat.toList_repr⟩

theorem isPlain_toString (i : Nat) : IsPlain (toString i) := by
  obtain ⟨c, digits, hdecimal, hc, _⟩ := Decimal.exists_toDigits_eq_cons i
  have hname : (toString i).toList = c :: digits := Nat.toList_repr.trans hdecimal
  refine ⟨fun hhead => ?_, fun hhead => ?_⟩
  · rw [hname] at hhead
    exact (Numeral.ne_sign_of_isDigit hc).1 (Option.some.inj hhead)
  · rw [hname] at hhead
    obtain rfl : c = '0' := Option.some.inj hhead
    rw [Decimal.eq_nil_of_toDigits_eq_cons hdecimal] at hname
    exact String.toList_inj.1 hname

/-- Of the names that spell a position only its decimal is plain. -/
theorem eq_toString_of_isPlain {name : String} {i : Nat} (h : SpellsPosition name i)
    (hplain : IsPlain name) : name = toString i := by
  obtain ⟨sign, zeros, hsign, hname⟩ := h
  obtain ⟨hplus, hzero⟩ := hplain
  have hdecimal : (toString i).toList = Nat.toDigits 10 i := Nat.toList_repr
  cases hsign with
  | plus => exact absurd (by rw [hname]; rfl) hplus
  | absent =>
    cases zeros with
    | zero => exact String.toList_inj.1 (hname.trans hdecimal.symm)
    | succ zeros =>
      -- a zero before the decimal would be a zero alone, and the decimal is not empty
      have halone := hzero (by rw [hname]; rfl)
      rw [halone] at hname
      have hbehind : List.replicate zeros '0' ++ Nat.toDigits 10 i = [] :=
        (List.cons.inj hname).2.symm
      exact absurd (List.append_eq_nil_iff.1 hbehind).2 Nat.toDigits_ne_nil

-- ════════════════════════════════════════════════════════════════════════
-- Steps into a document
-- ════════════════════════════════════════════════════════════════════════

/-- The part of a document that steps lead to. -/
def part? (d : Document) (steps : List Segment) : Option Document := steps.foldlM child? d

variable [Regex.Engine]

/-- Steps that go on lead to the same from the part that the first of them lead to. -/
theorem walk_append {d part : Document} {front rest : List Segment} (h : d.part? front = some part)
    (hrest : rest ≠ []) : d.walk (front ++ rest) = part.walk rest := by
  induction front generalizing d with
  | nil =>
    cases h
    rfl
  | cons s front ih =>
    obtain ⟨next, hchild, hnext⟩ := Option.bind_eq_some_iff.1 h
    rw [List.cons_append, walk_step fun hnil => absurd (List.append_eq_nil_iff.1 hnil).2 hrest,
      hchild]
    exact ih hnext

end Document

/-- A step, with an index as it is or by the name that is its decimal. -/
inductive Segment.Renamed : Segment → Segment → Prop where
  | same (s : Segment) : Renamed s s
  | decimal (i : Nat) : Renamed (.index i) (.key (toString i))

/-- The name of a length is no decimal. -/
theorem Segment.Renamed.eq_length {s : Segment} (h : Renamed s (.key "length")) :
    s = .key "length" := by
  generalize hlength : Segment.key "length" = s' at h
  cases h with
  | same => rfl
  | decimal i => exact absurd (Segment.key.inj hlength).symm (Document.toString_ne_length i)

namespace Document

theorem child?_of_renamed {s s' : Segment} (h : Segment.Renamed s s') (d : Document) :
    d.child? s' = d.child? s := by
  cases h with
  | same => rfl
  | decimal i => exact d.child?_toString i

variable [Regex.Engine]

/-- Steps lead to the same if some of the indexes in them are given by their decimals. -/
theorem walk_renamed {segments segments' : List Segment}
    (h : List.Forall₂ Segment.Renamed segments segments') (d : Document) :
    d.walk segments' = d.walk segments := by
  induction h generalizing d with
  | nil => rfl
  | @cons s s' rest rest' hs hrest ih =>
    by_cases hlast : rest = [] ∧ s = .key "length"
    · obtain ⟨rfl, rfl⟩ := hlast
      cases hs
      cases hrest
      rfl
    · have hlast' : ¬ (rest' = [] ∧ s' = .key "length") := by
        rintro ⟨rfl, rfl⟩
        cases hrest
        exact hlast ⟨rfl, hs.eq_length⟩
      rw [walk_step fun hnil hs => absurd ⟨hnil, hs⟩ hlast,
        walk_step fun hnil hs => absurd ⟨hnil, hs⟩ hlast', child?_of_renamed hs]
      cases d.child? s with
      | none => rfl
      | some next => exact ih next

theorem walk_array_key (items : List Document) {name : String} (hname : name ≠ "length")
    (rest : List Segment) :
    (array items).walk (.key name :: rest) =
      ((arrayPosition? name).bind (items[·]?)).elim .undefined (·.walk rest) :=
  walk_step fun _ heq => absurd (Segment.key.inj heq) hname

/-- In an array, wherever it stands, a name that spells a position leads to the item there,
    or nowhere if there is none, and any other name leads nowhere. The names that spell a
    position have its decimal at their end; without a plus sign and needless zeros they are
    the decimal. In any steps an index may be given by its decimal. -/
theorem walk_key {d : Document} {front : List Segment} {items : List Document}
    (hfront : d.part? front = some (.array items)) {name : String} (hname : name ≠ "length") :
    (∀ i, SpellsPosition name i → ∀ rest,
      d.walk (front ++ .key name :: rest) = (items[i]?).elim .undefined (·.walk rest)) ∧
    ((∀ i, ¬ SpellsPosition name i) → ∀ rest,
      d.walk (front ++ .key name :: rest) = .undefined) ∧
    (∀ i, SpellsPosition name i ∧ IsPlain name ↔ name = toString i) ∧
    ∀ (other : Document) (segments segments' : List Segment),
      List.Forall₂ Segment.Renamed segments segments' →
      other.walk segments' = other.walk segments := by
  have hwalk : ∀ rest, d.walk (front ++ .key name :: rest) =
      ((arrayPosition? name).bind (items[·]?)).elim .undefined (·.walk rest) := fun rest => by
    rw [walk_append hfront (List.cons_ne_nil _ rest), walk_array_key items hname]
  refine ⟨fun i hspells rest => ?_, fun hnone rest => ?_, fun i => ⟨?_, ?_⟩, ?_⟩
  · rw [hwalk, arrayPosition?_eq_some_iff.2 hspells, Option.bind_some]
  · have hposition : arrayPosition? name = none :=
      Option.eq_none_iff_forall_ne_some.2 fun i h => hnone i (arrayPosition?_eq_some_iff.1 h)
    rw [hwalk, hposition, Option.bind_none, Option.elim_none]
  · rintro ⟨hspells, hplain⟩
    exact eq_toString_of_isPlain hspells hplain
  · rintro rfl
    exact ⟨spellsPosition_toString i, isPlain_toString i⟩
  · intro other segments segments' hrenamed
    exact walk_renamed hrenamed other

end Document

namespace Document

/-- `+01` leads to the second item of an array that is a member. -/
theorem walk_key_signed :
    let items : List Document := [.null, .boolean true]
    let d : Document := .object (.cons "items" (.array items) List.not_mem_nil .nil)
    d.part? [.key "items"] = some (.array items) ∧ "+01" ≠ "length" ∧ SpellsPosition "+01" 1 ∧
      d.walk [.key "items", .key "+01"] = .boolean true := by
  intro items d
  have hfront : d.part? [.key "items"] = some (.array items) := rfl
  have hname : "+01" ≠ "length" := by decide
  have hspells : SpellsPosition "+01" 1 := ⟨['+'], 1, .plus, rfl⟩
  exact ⟨hfront, hname, hspells, (walk_key hfront hname).1 1 hspells []⟩

/-- `01` is the decimal of no position and leads to an item, the one that `1` leads to. -/
theorem walk_key_leading_zero :
    let d : Document := .array [.null, .boolean true]
    "01" ≠ "length" ∧ (∀ i : Nat, "01" ≠ toString i) ∧ d.walk [.key "01"] ≠ .undefined ∧
      d.walk [.key "01"] = d.walk [.key "1"] := by
  intro d
  have hname : "01" ≠ "length" := by decide
  have hdecimal : ∀ i : Nat, "01" ≠ toString i := by
    intro i heq
    have hplain := isPlain_toString i
    rw [← heq] at hplain
    exact absurd (hplain.2 rfl) (by decide)
  have hzero : d.walk [.key "01"] = .boolean true := walk_array_key _ hname []
  have hone : d.walk [.key "1"] = .boolean true := walk_array_key _ (by decide) []
  rw [hzero, hone]
  exact ⟨hname, hdecimal, by decide, rfl⟩

end Document

end ScalarExpr

import Mathlib.Data.List.DropRight
import ScalarExpr.Proofs.Lexing
/-!
# A token is made of its own characters

A reader looks at the characters of its token and at no more than the one behind
them. So a token is read alike if the text behind it is replaced by another one that
starts with the same character, by one that starts with a separator, or by nothing.
The characters of a token do not end in a separator.

## Main definitions

- `Lexer.EndsLike` — a text that ends a token as another text does
- `Lexer.Tight` — a text with no separator at its end
- `Lexer.TakesUpTo` — what a reader takes of a text, and what it makes of it wherever
  the text behind ends a token alike

## Main statements

- `Operator.read?_eq_some_iff`: the operator that is read is the longest one
- `Lexer.takesUpTo_readToken`: what is taken for a token, and nothing behind it, decides
  what the token is
- `Lexer.lexesAs_of_taken`: the characters of a token read as that token
-/

namespace ScalarExpr

-- ════════════════════════════════════════════════════════════════════════
-- The longest operator
-- ════════════════════════════════════════════════════════════════════════

namespace Operator

/-- No spelling is tried before a longer one that it starts. -/
theorem pairwise_readingTable :
    readingTable.Pairwise fun first second => ¬ first.1.toList <+: second.1.toList := by
  decide +kernel

/-- A spelling that goes on from another one can be reached character by character. -/
theorem exists_mem_readingTable_take : ∀ first ∈ readingTable, ∀ second ∈ readingTable,
    first.1.toList <+: second.1.toList → first = second ∨
      ∃ next ∈ readingTable, next.1.toList = second.1.toList.take (first.1.toList.length + 1) := by
  decide +kernel

theorem eq_of_mem_readingTable : ∀ first ∈ readingTable, ∀ second ∈ readingTable,
    first.1.toList = second.1.toList → first = second := by
  decide +kernel

/-- The longest spelling that a text starts with. -/
def IsLongest (entry : String × Operator) (cs : List Char) : Prop :=
  ∀ other ∈ readingTable, other.1.toList <+: cs → other.1.toList.length ≤ entry.1.toList.length

theorem exists_isLongest_of_read? {cs rest : List Char} {op : Operator}
    (h : read? cs = some (op, rest)) :
    ∃ entry ∈ readingTable, entry.2 = op ∧ cs = entry.1.toList ++ rest ∧ IsLongest entry cs := by
  obtain ⟨earlier, entry, later, htable, hentry, hearlier⟩ := List.findSome?_eq_some_iff.1 h
  obtain ⟨rest', hprefix, heq⟩ := Option.map_eq_some_iff.1 hentry
  cases heq
  have hcs := Text.eq_append_of_isPrefixOf? hprefix
  have hmem : entry ∈ readingTable := by simp [htable]
  refine ⟨entry, hmem, rfl, hcs, fun other hother hstarts => ?_⟩
  rw [htable, List.mem_append, List.mem_cons] at hother
  rcases hother with hother | rfl | hother
  · obtain ⟨tail, htail⟩ := hstarts
    have hnone := hearlier other hother
    rw [Option.map_eq_none_iff] at hnone
    have hsome := List.isPrefixOf?_eq_some_iff_append_eq.2 htail
    rw [hnone] at hsome
    cases hsome
  · exact Nat.le_refl _
  · have hpairwise := pairwise_readingTable
    rw [htable, List.pairwise_append, List.pairwise_cons] at hpairwise
    have hnot := hpairwise.2.1.1 other hother
    have hstarts' : entry.1.toList <+: cs := ⟨_, hcs.symm⟩
    rcases List.prefix_or_prefix_of_prefix hstarts hstarts' with hshort | hlong
    · exact hshort.length_le
    · exact absurd hlong hnot

/-- Of all spellings that a text starts with, the longest one is read. -/
theorem read?_eq_some_iff {cs rest : List Char} {op : Operator} :
    read? cs = some (op, rest) ↔
      ∃ entry ∈ readingTable, entry.2 = op ∧ cs = entry.1.toList ++ rest ∧ IsLongest entry cs := by
  refine ⟨exists_isLongest_of_read?, ?_⟩
  rintro ⟨entry, hmem, rfl, hcs, hlongest⟩
  have hstarts : entry.1.toList <+: cs := ⟨_, hcs.symm⟩
  have hentry : (entry.1.toList.isPrefixOf? cs).map (entry.2, ·) = some (entry.2, rest) := by
    rw [List.isPrefixOf?_eq_some_iff_append_eq.2 hcs.symm, Option.map_some]
  cases hread : read? cs with
  | none =>
    have hnone := List.findSome?_eq_none_iff.1 hread entry hmem
    dsimp only at hnone
    rw [hentry] at hnone
    cases hnone
  | some read =>
    obtain ⟨op', rest'⟩ := read
    obtain ⟨entry', hmem', rfl, hcs', hlongest'⟩ := exists_isLongest_of_read? hread
    have hstarts' : entry'.1.toList <+: cs := ⟨_, hcs'.symm⟩
    have hle := hlongest entry' hmem' hstarts'
    have hge := hlongest' entry hmem hstarts
    have hlength : entry'.1.toList.length = entry.1.toList.length := Nat.le_antisymm hle hge
    have hspelling := (List.append_inj (hcs'.symm.trans hcs) hlength).1
    obtain rfl := eq_of_mem_readingTable entry' hmem' entry hmem hspelling
    rw [hcs] at hcs'
    rw [List.append_cancel_left hcs']

end Operator

namespace Lexer

-- ════════════════════════════════════════════════════════════════════════
-- What may stand behind a token
-- ════════════════════════════════════════════════════════════════════════

/-- The text ends a token that `rest` ends: it starts with the same character, or it is
    empty or starts with a separator. -/
def EndsLike (behind rest : List Char) : Prop := Separated behind ∨ behind.head? = rest.head?

variable {behind rest : List Char}

theorem Separated.endsLike (h : Separated behind) : EndsLike behind rest := .inl h

/-- What ends a token like the end of a text is empty or starts with a separator. -/
theorem endsLike_nil_iff : EndsLike behind [] ↔ Separated behind := by
  refine ⟨?_, Separated.endsLike⟩
  rintro (h | h)
  · exact h
  · rw [List.head?_eq_none_iff.1 h]
    exact separated_nil

theorem endsLike_cons_iff {c : Char} :
    EndsLike behind (c :: rest) ↔ Separated behind ∨ ∃ text, behind = c :: text :=
  or_congr_right List.head?_eq_some_iff

theorem EndsLike.endsName (h : EndsLike behind rest) (hrest : endsName rest) :
    endsName behind := by
  cases rest with
  | nil => exact endsName_of_separated (endsLike_nil_iff.1 h)
  | cons c rest =>
    rcases endsLike_cons_iff.1 h with h | ⟨text, rfl⟩
    · exact endsName_of_separated h
    · exact hrest

theorem EndsLike.endsPath (h : EndsLike behind rest) (hrest : EndsPath rest) :
    EndsPath behind := by
  rcases h with h | h
  · exact endsPath_of_separated h
  · intro c hc
    exact hrest c (h ▸ hc)

/-- A text with no separator at its end. -/
def Tight (cs : List Char) : Prop := ∀ c ∈ cs.getLast?, ¬ Text.isSeparator c

theorem tight_of_forall {cs : List Char} (h : ∀ c ∈ cs, ¬ Text.isSeparator c) : Tight cs :=
  fun c hc => h c (List.mem_of_getLast? hc)

theorem Tight.append {front cs : List Char} (hfront : Tight front) (h : Tight cs) :
    Tight (front ++ cs) := by
  intro c hc
  rw [List.getLast?_append] at hc
  cases hlast : cs.getLast? with
  | none => exact hfront c (by simpa [hlast] using hc)
  | some d => exact h c (by simpa [hlast] using hc)

theorem tight_concat {c : Char} (h : ¬ Text.isSeparator c) (front : List Char) :
    Tight (front ++ [c]) := by
  intro d hd
  obtain rfl : c = d := by simpa using hd
  exact h

theorem Tight.cons {c : Char} {cs : List Char} (h : Tight cs) (hc : cs = [] → ¬ Text.isSeparator c) :
    Tight (c :: cs) := by
  cases cs with
  | nil => exact tight_concat (hc rfl) []
  | cons d cs =>
    intro e he
    rw [List.getLast?_cons_cons] at he
    exact h e he

theorem Tight.tail {c : Char} {cs : List Char} (h : Tight (c :: cs)) : Tight cs := by
  cases cs with
  | nil => exact tight_of_forall nofun
  | cons d cs => exact h

theorem Tight.rdropWhile_append {cs gap : List Char} (h : Tight cs)
    (hgap : ∀ c ∈ gap, Text.isSeparator c) : (cs ++ gap).rdropWhile Text.isSeparator = cs := by
  have hself : cs.rdropWhile Text.isSeparator = cs :=
    List.rdropWhile_eq_self_iff.2 fun hne => h _ (List.getLast?_eq_some_getLast hne)
  rw [List.rdropWhile, List.reverse_append,
    List.dropWhile_append_of_pos fun c hc => hgap c (List.mem_reverse.1 hc)]
  exact hself

/-- Of a text the reader takes all but `rest`, which does not end in a separator; and it
    makes the same of what it takes wherever the text behind ends a token alike. -/
def TakesUpTo {α : Type} (read : List Char → α) (result : List Char → α) (cs rest : List Char) :
    Prop :=
  ∃ taken, cs = taken ++ rest ∧ Tight taken ∧
    ∀ behind, EndsLike behind rest → read (taken ++ behind) = result behind

variable {α β : Type} {read : List Char → α} {read' : List Char → β} {result : List Char → α}
  {result' : List Char → β} {cs : List Char}

theorem takesUpTo_self (h : ∀ behind, EndsLike behind rest → read behind = result behind) :
    TakesUpTo read result rest rest :=
  ⟨[], rfl, tight_of_forall nofun, h⟩

theorem TakesUpTo.cons {c : Char} (h : TakesUpTo read result cs rest) (hc : ¬ Text.isSeparator c)
    (hread : ∀ text behind, read text = result behind → read' (c :: text) = result' behind) :
    TakesUpTo read' result' (c :: cs) rest := by
  obtain ⟨taken, rfl, htight, htaken⟩ := h
  exact ⟨c :: taken, rfl, htight.cons fun _ => hc, fun behind hbehind =>
    hread _ _ (htaken behind hbehind)⟩

/-- What one reader takes another one takes that makes something of its result. -/
theorem TakesUpTo.map (h : TakesUpTo read result cs rest)
    (hread : ∀ text behind, read text = result behind → read' text = result' behind) :
    TakesUpTo read' result' cs rest := by
  obtain ⟨taken, hcs, htight, htaken⟩ := h
  exact ⟨taken, hcs, htight, fun behind hbehind => hread _ _ (htaken behind hbehind)⟩

-- ════════════════════════════════════════════════════════════════════════
-- Numbers
-- ════════════════════════════════════════════════════════════════════════

theorem not_isSeparator_of_isAlphanum {c : Char} (h : c.isAlphanum) : ¬ Text.isSeparator c := by
  intro hsep
  rcases isSeparator_iff.1 hsep with rfl | rfl | rfl | rfl | rfl | rfl <;> cases h

theorem isAlphanum_of_isDigit {c : Char} (h : c.isDigit) : c.isAlphanum := by
  simp [Char.isAlphanum, h]

/-- A run of a number goes on with a character or stops at it, whatever comes then. -/
theorem numberRun_cons (afterMark : Bool) (c : Char) :
    (∃ mark, ¬ Text.isSeparator c ∧ ∀ text, numberRun afterMark (c :: text) =
      (c :: (numberRun mark text).1, (numberRun mark text).2)) ∨
    ∀ text, numberRun afterMark (c :: text) = ([], c :: text) := by
  by_cases hdigit : (c.isDigit || c = '.') = true
  · refine .inl ⟨false, ?_, fun text => by rw [numberRun, if_pos hdigit]⟩
    rcases Bool.or_eq_true_iff.1 hdigit with hc | hc
    · exact not_isSeparator_of_isAlphanum (isAlphanum_of_isDigit hc)
    · rw [of_decide_eq_true hc]
      decide
  by_cases hmark : (c = 'e' || c = 'E') = true
  · refine .inl ⟨true, ?_, fun text => by rw [numberRun, if_neg hdigit, if_pos hmark]⟩
    rcases Bool.or_eq_true_iff.1 hmark with hc | hc <;> rw [of_decide_eq_true hc] <;> decide
  by_cases hsign : (afterMark && (c = '+' || c = '-')) = true
  · refine .inl ⟨false, ?_, fun text => by
      rw [numberRun, if_neg hdigit, if_neg hmark, if_pos hsign]⟩
    rcases Bool.or_eq_true_iff.1 (Bool.and_eq_true_iff.1 hsign).2 with hc | hc <;>
      rw [of_decide_eq_true hc] <;> decide
  · exact .inr fun text => by rw [numberRun, if_neg hdigit, if_neg hmark, if_neg hsign]

/-- Where a run of a number stops depends on one character. -/
theorem takesUpTo_numberRun (afterMark : Bool) (cs : List Char) :
    TakesUpTo (numberRun afterMark) (fun behind => ((numberRun afterMark cs).1, behind)) cs
      (numberRun afterMark cs).2 := by
  induction cs generalizing afterMark with
  | nil =>
    exact takesUpTo_self fun behind hbehind =>
      numberRun_separated afterMark (endsLike_nil_iff.1 hbehind)
  | cons c cs ih =>
    rcases numberRun_cons afterMark c with ⟨mark, hc, hrun⟩ | hstop
    · rw [hrun cs]
      refine (ih mark).cons hc fun text behind htext => ?_
      rw [hrun text, htext]
    · rw [hstop cs]
      refine takesUpTo_self fun behind hbehind => ?_
      rcases endsLike_cons_iff.1 hbehind with hbehind | ⟨text, rfl⟩
      · exact numberRun_separated afterMark hbehind
      · exact hstop text

/-- After a zero, what is no mark of a hexadecimal literal is none before another text that
    ends the number alike. -/
theorem not_hexMark_of_endsLike {c : Char} {text : List Char} (hc : c = 'x' ∨ c = 'X')
    (hcs : ∀ text, cs ≠ '0' :: c :: text)
    (hbehind : EndsLike behind (numberRun false cs).2) {taken : List Char}
    (hsplit : cs = taken ++ (numberRun false cs).2)
    (hrun : numberRun false (taken ++ behind) = ((numberRun false cs).1, behind)) :
    taken ++ behind ≠ '0' :: c :: text := by
  intro heq
  have hzero : numberRun false ('0' :: c :: text) = (['0'], c :: text) := by
    rcases hc with rfl | rfl <;> rfl
  rw [heq, hzero] at hrun
  obtain ⟨_, rfl⟩ := Prod.mk.inj hrun
  have htaken : taken = ['0'] := List.append_cancel_right (heq.trans rfl)
  rcases hbehind with hbehind | hbehind
  · have hsep := hbehind c rfl
    rcases hc with rfl | rfl <;> cases hsep
  · obtain ⟨rest', hrest'⟩ := List.head?_eq_some_iff.1 hbehind.symm
    rw [htaken, hrest'] at hsplit
    exact hcs rest' hsplit

-- ════════════════════════════════════════════════════════════════════════
-- Flags, operators and paths
-- ════════════════════════════════════════════════════════════════════════

theorem takesUpTo_readFlags (flags : Regex.Flags) (cs : List Char) :
    TakesUpTo (readFlags flags) (fun behind => ((readFlags flags cs).1, behind)) cs
      (readFlags flags cs).2 := by
  fun_induction readFlags flags cs with
  | case1 flags =>
    exact takesUpTo_self fun behind hbehind =>
      readFlags_separated flags (endsLike_nil_iff.1 hbehind)
  | case2 flags c cs flags' hset ih =>
    refine ih.cons (not_isSeparator_of_set? hset) fun text behind htext => ?_
    rw [readFlags, hset]
    exact htext
  | case3 flags c cs hset =>
    refine takesUpTo_self fun behind hbehind => ?_
    rcases endsLike_cons_iff.1 hbehind with hbehind | ⟨text, rfl⟩
    · exact readFlags_separated flags hbehind
    · rw [readFlags, hset]

/-- Which operator is read depends on one character behind it: a longer spelling would
    be reached through the one that goes on with this character. -/
theorem isLongest_of_endsLike {entry : String × Operator} (hentry : entry ∈ Operator.readingTable)
    (h : Operator.IsLongest entry (entry.1.toList ++ rest)) (hbehind : EndsLike behind rest) :
    Operator.IsLongest entry (entry.1.toList ++ behind) := by
  intro other hother hstarts
  by_contra hlt
  have hself : entry.1.toList <+: entry.1.toList ++ behind := List.prefix_append _ _
  have hshort := List.prefix_of_prefix_length_le hself hstarts (by omega)
  obtain ⟨more, hmore⟩ := hshort
  rw [← hmore, List.prefix_append_right_inj] at hstarts
  cases more with
  | nil =>
    rw [List.append_nil] at hmore
    rw [hmore] at hlt
    exact hlt (Nat.le_refl _)
  | cons c more =>
    obtain ⟨text, rfl⟩ := hstarts
    rcases hbehind with hbehind | hbehind
    · refine not_isSeparator_of_mem_spelling hother c ?_ (hbehind c rfl)
      rw [← hmore]
      simp
    · obtain ⟨rest', rfl⟩ := List.head?_eq_some_iff.1 hbehind.symm
      rcases Operator.exists_mem_readingTable_take entry hentry other hother ⟨_, hmore⟩ with
        rfl | ⟨next, hnext, htake⟩
      · exact hlt (Nat.le_refl _)
      · have hspelling : next.1.toList = entry.1.toList ++ [c] := by
          rw [htake, ← hmore, List.take_length_add_append]
          rfl
        have hle := h next hnext (by rw [hspelling]; exact ⟨rest', by simp⟩)
        rw [hspelling, List.length_append, List.length_singleton] at hle
        omega

/-- The operator at the head of a text takes its spelling and depends on one character
    behind it. -/
theorem takesUpTo_read? {op : Operator} {c : Char} (h : Operator.read? (c :: cs) = some (op, rest)) :
    TakesUpTo (fun text => Operator.read? (c :: text)) (fun behind => some (op, behind)) cs
      rest := by
  obtain ⟨entry, hentry, rfl, hcs, hlongest⟩ := Operator.read?_eq_some_iff.1 h
  have hsolid := not_isSeparator_of_mem_spelling hentry
  rw [hcs] at hlongest
  have hread : ∀ behind, EndsLike behind rest →
      Operator.read? (entry.1.toList ++ behind) = some (entry.2, behind) := fun behind hbehind =>
    Operator.read?_eq_some_iff.2
      ⟨entry, hentry, rfl, rfl, isLongest_of_endsLike hentry hlongest hbehind⟩
  cases hspelling : entry.1.toList with
  | nil =>
    have hall : ∀ entry ∈ Operator.readingTable, entry.1.toList ≠ [] := by decide
    exact absurd hspelling (hall entry hentry)
  | cons d taken =>
    rw [hspelling] at hcs hsolid hread
    obtain ⟨rfl, rfl⟩ := List.cons.inj hcs
    exact ⟨taken, rfl, tight_of_forall fun c hc => hsolid c (List.mem_cons_of_mem _ hc), hread⟩

/-- A path that is empty was read outside brackets and quotes. -/
theorem eq_zero_of_variablePath_nil {depth : Nat} {quote : Option Char}
    (h : variablePath depth quote cs = .ok ([], rest)) : depth = 0 ∧ quote = none := by
  have hne : ∀ {c r}, withFirst c r ≠ .ok ([], rest) := by
    intro c r hfirst
    obtain ⟨_, _, hnil⟩ := withFirst_eq_ok.1 hfirst
    cases hnil
  revert h
  fun_cases variablePath depth quote cs with
  | case1 | case3 | case4 => exact nofun
  | case2 | case8 => exact fun _ => ⟨rfl, rfl⟩
  | case5 | case6 | case7 | case9 | case10 => exact fun h => absurd h hne

theorem not_isSeparator_of_mem_none : ∀ q ∈ (none : Option Char), ¬ Text.isSeparator q := by
  intro q hq
  cases hq

/-- A path ends in a bracket or in a character of a name. -/
theorem tight_of_variablePath {depth : Nat} {quote : Option Char} {path : List Char}
    (hquote : ∀ q ∈ quote, ¬ Text.isSeparator q)
    (h : variablePath depth quote cs = .ok (path, rest)) : Tight path := by
  fun_induction variablePath depth quote cs generalizing path with
  | case1 | case3 | case4 => cases h
  | case2 | case8 =>
    cases h
    exact tight_of_forall (List.forall_mem_nil _)
  | case5 depth q d cs ih =>
    obtain ⟨_, hd, rfl⟩ := withFirst_eq_ok.1 h
    obtain ⟨path, hp, rfl⟩ := withFirst_eq_ok.1 hd
    have htight := ih hquote hp
    refine (htight.cons ?_).cons fun hnil => absurd hnil (List.cons_ne_nil _ _)
    rintro rfl
    cases (eq_zero_of_variablePath_nil hp).2
  | case6 depth c cs q _ ih =>
    have hclosed : ∀ d ∈ (if c = q then none else some q), ¬ Text.isSeparator d := by
      intro d hd
      split at hd
      · cases hd
      · exact hquote d hd
    obtain ⟨path, hp, rfl⟩ := withFirst_eq_ok.1 h
    refine (ih hclosed hp).cons ?_
    rintro rfl
    obtain ⟨_, hnone⟩ := eq_zero_of_variablePath_nil hp
    split at hnone
    · rename_i hc
      exact hc ▸ hquote q rfl
    · cases hnone
  | case7 cs ih =>
    obtain ⟨path, hp, rfl⟩ := withFirst_eq_ok.1 h
    refine (ih not_isSeparator_of_mem_none hp).cons ?_
    rintro rfl
    cases (eq_zero_of_variablePath_nil hp).1
  | case9 c cs hbracket hbound ih =>
    obtain ⟨path, hp, rfl⟩ := withFirst_eq_ok.1 h
    exact (ih not_isSeparator_of_mem_none hp).cons fun _ hsep => hbound (isBound_of_isSeparator hsep)
  | @case10 c cs depth inside opened ih =>
    have hopened : ∀ d ∈ opened, ¬ Text.isSeparator d := by
      intro d hd
      simp only [opened, Option.mem_ite_none_right] at hd
      obtain ⟨hc, hd⟩ := hd
      obtain rfl := Option.some.inj hd
      rcases hc with rfl | rfl <;> decide
    obtain ⟨path, hp, rfl⟩ := withFirst_eq_ok.1 h
    refine (ih hopened hp).cons ?_
    rintro rfl hsep
    obtain ⟨hinside, _⟩ := eq_zero_of_variablePath_nil hp
    simp only [inside] at hinside
    split at hinside
    · omega
    · split at hinside
      · rename_i hc
        exact absurd hsep (hc ▸ by decide)
      · omega

/-- What a reader takes of a text behind the first character, which it takes as well. -/
theorem TakesUpTo.tail {c : Char} (h : TakesUpTo read result (c :: cs) rest) (hrest : rest <:+ cs) :
    TakesUpTo (fun text => read (c :: text)) result cs rest := by
  obtain ⟨taken, hcs, htight, htaken⟩ := h
  cases taken with
  | nil =>
    have hlength := hrest.length_le
    rw [List.nil_append] at hcs
    rw [← hcs, List.length_cons] at hlength
    omega
  | cons d taken =>
    obtain ⟨rfl, rfl⟩ := List.cons.inj hcs
    exact ⟨taken, rfl, htight.tail, htaken⟩

theorem eq_slash_of_read? {c : Char}
    (h : Operator.read? (c :: cs) = some (.arithmetic .divide, rest)) :
    c = '/' ∧ cs = rest := by
  have hall : ∀ entry ∈ Operator.readingTable, entry.2 = .arithmetic .divide →
      entry.1.toList = ['/'] := by decide
  obtain ⟨entry, hentry, hop, hcs, _⟩ := Operator.read?_eq_some_iff.1 h
  rw [hall entry hentry hop] at hcs
  exact List.cons.inj hcs

-- ════════════════════════════════════════════════════════════════════════
-- Literals
-- ════════════════════════════════════════════════════════════════════════

variable [Regex.Engine]

theorem takesUpTo_readHex {v : Operand} (h : readHex cs = .ok (v, rest)) :
    TakesUpTo readHex (fun behind => .ok (v, behind)) cs rest := by
  have hrest : rest = cs.dropWhile Char.isAlphanum := by
    simp only [readHex] at h
    split at h
    · cases h
    split at h <;> cases h
    rfl
  have hdigits : ∀ c ∈ cs.takeWhile Char.isAlphanum, c.isAlphanum := fun c hc =>
    List.mem_takeWhile_imp hc
  refine ⟨cs.takeWhile Char.isAlphanum, ?_,
    tight_of_forall fun c hc => not_isSeparator_of_isAlphanum (hdigits c hc),
    fun behind hbehind => ?_⟩
  · rw [hrest, List.takeWhile_append_dropWhile]
  · have hhead : ∀ c ∈ behind.head?, ¬ c.isAlphanum := by
      intro c hc halphanum
      rcases hbehind with hbehind | hbehind
      · exact not_isSeparator_of_isAlphanum halphanum (hbehind c hc)
      · have hnot := List.head?_dropWhile_not Char.isAlphanum cs
        rw [← hrest, ← hbehind, Option.mem_def.1 hc] at hnot
        simp [halphanum] at hnot
    have htake : (cs.takeWhile Char.isAlphanum ++ behind).takeWhile Char.isAlphanum =
        cs.takeWhile Char.isAlphanum := by
      rw [List.takeWhile_append_of_pos hdigits]
      cases behind with
      | nil => simp
      | cons c behind => simp [hhead c rfl]
    have hdrop : (cs.takeWhile Char.isAlphanum ++ behind).dropWhile Char.isAlphanum = behind := by
      rw [List.dropWhile_append_of_pos hdigits]
      cases behind with
      | nil => rfl
      | cons c behind => exact List.dropWhile_cons_of_neg (hhead c rfl)
    simp only [readHex, htake, hdrop] at h ⊢
    split at h
    · cases h
    · rename_i hhex
      rw [if_neg hhex]
      split at h
      · cases h
      · rename_i hlong
        cases h
        rw [if_neg hlong]

theorem takesUpTo_readNumber {v : Operand} (h : readNumber cs = .ok (v, rest)) :
    TakesUpTo readNumber (fun behind => .ok (v, behind)) cs rest := by
  unfold readNumber at h
  split at h
  · refine ((takesUpTo_readHex h).cons ?_ fun _ _ htext => htext).cons ?_ fun _ _ htext => htext
    all_goals decide
  · refine ((takesUpTo_readHex h).cons ?_ fun _ _ htext => htext).cons ?_ fun _ _ htext => htext
    all_goals decide
  · rename_i hx hX
    dsimp only at h
    split at h
    · rename_i n hn
      cases h
      obtain ⟨taken, hsplit, htight, htaken⟩ := takesUpTo_numberRun false cs
      refine ⟨taken, hsplit, htight, fun behind hbehind => ?_⟩
      have hrun := htaken behind hbehind
      unfold readNumber
      split
      · rename_i heq
        exact absurd heq (not_hexMark_of_endsLike (.inl rfl) hx hbehind hsplit hrun)
      · rename_i heq
        exact absurd heq (not_hexMark_of_endsLike (.inr rfl) hX hbehind hsplit hrun)
      · simp only [hrun, hn]
    · cases h

theorem takesUpTo_readString {quote : Char} {v : Operand} (hquote : quote = '"' ∨ quote = '\'')
    (h : readString quote cs = .ok (v, rest)) :
    TakesUpTo (readString quote) (fun behind => .ok (v, behind)) cs rest := by
  unfold readString at h
  split at h
  · rename_i body behind hbody
    cases h
    obtain ⟨written, rfl, hwritten⟩ := exists_unescapes_of_stringBody hbody
    have hsep : ¬ Text.isSeparator quote := by rcases hquote with rfl | rfl <;> decide
    have hbackslash : quote ≠ '\\' := by rcases hquote with rfl | rfl <;> decide
    refine ⟨written ++ [quote], by simp, tight_concat hsep written, fun behind _ => ?_⟩
    rw [List.append_assoc, List.singleton_append, readString,
      stringBody_of_unescapes hbackslash hwritten]
  · cases h

theorem takesUpTo_readRegexp {v : Operand} (h : readRegexp cs = .ok (v, rest)) :
    TakesUpTo readRegexp (fun behind => .ok (v, behind)) cs rest := by
  simp only [readRegexp] at h
  split at h
  · cases h
  · rename_i body after hbody
    split at h
    · rename_i r hr
      cases h
      obtain ⟨written, rfl, hwritten⟩ := exists_unslashes_of_regexpBody hbody
      obtain ⟨letters, hletters, htight, hflags⟩ := takesUpTo_readFlags .none after
      have hslash : ¬ Text.isSeparator '/' := by decide
      refine ⟨written ++ '/' :: letters, ?_, ?_, fun behind hbehind => ?_⟩
      · conv => lhs; rw [hletters]
        simp
      · rw [← List.singleton_append, ← List.append_assoc]
        exact (tight_concat hslash written).append htight
      · rw [List.append_assoc, List.cons_append]
        simp only [readRegexp, regexpBody_of_unslashes hwritten, hflags behind hbehind, hr]
    · cases h

theorem not_isSeparator_of_mem_word {entry : String × Operand} (h : entry ∈ keywords) :
    ∀ c ∈ entry.1.toList, ¬ Text.isSeparator c := by
  intro c hc hsep
  have hends : endsName [c] := isBound_of_isSeparator hsep
  exact notMem_word_of_endsName hends c rfl entry h hc

theorem takesUpTo_readKeyword? {v : Operand} {c : Char}
    (h : readKeyword? (c :: cs) = some (v, rest)) :
    startsVariable c ∧
      TakesUpTo (fun text => readKeyword? (c :: text)) (fun behind => some (v, behind)) cs rest := by
  obtain ⟨word, hentry, hcs, hends⟩ := exists_word_of_readKeyword? h
  obtain ⟨d, taken, hword, hstart, hread⟩ := readKeyword?_word _ hentry
  have hsolid := not_isSeparator_of_mem_word hentry
  dsimp only at hword hread hsolid
  rw [hword] at hcs hsolid hread
  obtain ⟨rfl, rfl⟩ := List.cons.inj hcs
  refine ⟨hstart, taken, rfl, tight_of_forall fun d hd => hsolid d (List.mem_cons_of_mem _ hd),
    fun behind hbehind => ?_⟩
  have happend := readKeyword?_append_of_endsName (hbehind.endsName hends) (c :: taken)
  rw [hread] at happend
  exact happend

-- ════════════════════════════════════════════════════════════════════════
-- Tokens
-- ════════════════════════════════════════════════════════════════════════

variable {operandExpected : Bool} {c : Char} {kind : TokenKind}

theorem readToken_of_read? {op : Operator} (h : Operator.read? (c :: cs) = some (op, rest))
    (operandExpected : Bool) :
    readToken operandExpected c cs =
      if operandExpected ∧ op = .arithmetic .divide then asLiteral (readRegexp rest)
      else if operandExpected ∧ op = .arithmetic .minus then .ok (.operator (.unary .minus), rest)
      else .ok (.operator op, rest) := by
  have hparenthesis : ∀ d, ¬ Operator.isStart d → c ≠ d := by
    rintro d hd rfl
    rw [read?_eq_none_of_not_isStart hd] at h
    cases h
  rw [readToken, if_neg (hparenthesis '(' (by decide)), if_neg (hparenthesis ')' (by decide)), h]

/-- What is taken for a token, and nothing behind it but where it ends, decides what the
    token is. -/
theorem takesUpTo_readToken (h : readToken operandExpected c cs = .ok (kind, rest)) :
    TakesUpTo (readToken operandExpected c) (fun behind => .ok (kind, behind)) cs rest := by
  cases readBy_of_readToken h with
  | leftParen hc | rightParen hc =>
    subst hc
    exact takesUpTo_self fun _ _ => rfl
  | operator hread hbinary =>
    refine (takesUpTo_read? hread).map fun text behind htext => ?_
    rw [readToken_of_read? htext, if_neg fun hand => (hbinary hand.1).2 hand.2,
      if_neg fun hand => (hbinary hand.1).1 hand.2]
  | negation hexpected hread =>
    refine (takesUpTo_read? hread).map fun text behind htext => ?_
    rw [readToken_of_read? htext, if_neg (fun hand => by cases hand.2), if_pos ⟨hexpected, rfl⟩]
  | regexp hexpected hread hvalue =>
    obtain ⟨rfl, rfl⟩ := eq_slash_of_read? hread
    refine (takesUpTo_readRegexp hvalue).map fun text behind htext => ?_
    rw [hexpected, readToken_slash, htext, asLiteral]
  | number hdigit hvalue =>
    refine ((takesUpTo_readNumber hvalue).tail (readNumber_suffix hdigit hvalue)).map
      fun text behind htext => ?_
    rw [readToken_digit hdigit, htext, asLiteral]
  | string hquote hvalue =>
    refine (takesUpTo_readString hquote hvalue).map fun text behind htext => ?_
    rw [readToken_of_isQuote hquote, htext, asLiteral]
  | keyword hread =>
    obtain ⟨hstart, htakes⟩ := takesUpTo_readKeyword? hread
    refine htakes.map fun text behind htext => ?_
    rw [readToken_startsVariable hstart, htext]
    rfl
  | @«variable» path rest hstart hkeyword hpath =>
    have hends := endsPath_of_variablePath hpath
    have happend := variablePath_append hpath
    obtain ⟨taken, htaken⟩ := exists_eq_cons_of_variablePath hstart hpath
    have hnone : readKeyword? path.toList = none := by
      rw [happend, readKeyword?_append_of_endsName (endsName_of_endsPath hends),
        Option.map_eq_none_iff] at hkeyword
      exact hkeyword
    have htight := tight_of_variablePath not_isSeparator_of_mem_none hpath
    rw [htaken] at happend htight
    refine ⟨taken, (List.cons.inj happend).2, htight.tail, fun behind hbehind => ?_⟩
    have hbehind := hbehind.endsPath hends
    rw [readToken_startsVariable hstart, ← List.cons_append, ← htaken,
      readKeyword?_append_of_endsName (endsName_of_endsPath hbehind), hnone, readVariable,
      variablePath_append_of_endsPath hpath hbehind]
    simp only [Option.map_none, Option.getD_none, String.ofList_toList]

/-- A token is read alike before any text that ends it alike. -/
theorem readToken_of_endsLike {tail : List Char}
    (h : readToken operandExpected c (tail ++ rest) = .ok (kind, rest))
    (hbehind : EndsLike behind rest) :
    readToken operandExpected c (tail ++ behind) = .ok (kind, behind) := by
  obtain ⟨taken, hsplit, _, htaken⟩ := takesUpTo_readToken h
  rw [List.append_cancel_right hsplit]
  exact htaken behind hbehind

theorem lexesAs_of_taken {tail : List Char} (hc : ¬ Text.isSeparator c)
    (h : readToken operandExpected c (tail ++ rest) = .ok (kind, rest)) :
    LexesAs operandExpected (c :: tail) kind :=
  ⟨c, tail, rfl, hc, fun _ hbehind => readToken_of_endsLike h hbehind.endsLike⟩

/-- No token ends in a separator. -/
theorem tight_of_readToken {tail : List Char} (hc : ¬ Text.isSeparator c)
    (h : readToken operandExpected c (tail ++ rest) = .ok (kind, rest)) : Tight (c :: tail) := by
  obtain ⟨taken, hsplit, htight, _⟩ := takesUpTo_readToken h
  rw [List.append_cancel_right hsplit]
  exact htight.cons fun _ => hc

end Lexer

end ScalarExpr

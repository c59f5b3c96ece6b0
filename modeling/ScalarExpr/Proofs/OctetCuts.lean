import ScalarExpr.Proofs.ByteReader
import ScalarExpr.Proofs.Locality
/-!
# Octets are cut like characters

No reader tells two characters past ASCII apart, and each of them passes over such a
character without a change of its state. So it passes over the octets of a character as it
does over the character, also where a backslash takes the first of them along, and cuts the
octets of a text between two characters alone, where it cuts the text.

## Main definitions

- `Lexer.Piece.octets` — the octets of a piece

## Main statements

- `Lexer.numberRun_octets`, `Lexer.readHex_octets`, `Lexer.stringBody_octets`,
  `Lexer.regexpBody_octets`, `Lexer.readFlags_octets`, `Lexer.read?_octets`,
  `Lexer.readKeyword?_octets`, `Lexer.variablePath_octets`: what each reader cuts off
- `Lexer.cut_octets`: the piece that is cut off the octets of a text
-/

namespace ScalarExpr

namespace Lexer

open Text

variable {c : Char} {cs front : List Char}

-- ════════════════════════════════════════════════════════════════════════
-- Characters past ASCII
-- ════════════════════════════════════════════════════════════════════════

theorem not_isAlphanum_of_isHigh (h : IsHigh c) : ¬ c.isAlphanum := by
  have hge : 0x80 ≤ c.toNat := h
  intro halphanum
  rcases Bool.or_eq_true_iff.1 halphanum with halpha | hdigit
  · rcases Bool.or_eq_true_iff.1 halpha with hcase | hcase
    · have hupper : c.val ≥ 'A'.val ∧ c.val ≤ 'Z'.val := of_decide_eq_true hcase
      have hlast : c.toNat ≤ 90 := hupper.2
      omega
    · have hlower : c.val ≤ 'z'.val := of_decide_eq_true (Bool.and_eq_true_iff.1 hcase).2
      have hlast : c.toNat ≤ 122 := hlower
      omega
  · have hlast : c.toNat ≤ 57 := (Char.isDigit_iff_toNat.1 hdigit).2
    omega

theorem not_isDigit_of_isHigh (h : IsHigh c) : ¬ c.isDigit := fun hdigit =>
  not_isAlphanum_of_isHigh h (isAlphanum_of_isDigit hdigit)

theorem not_isHigh_of_all {word : List Char} (h : word.all fun d => ¬ IsHigh d) :
    ∀ d ∈ word, ¬ IsHigh d := fun d hd => of_decide_eq_true (List.all_eq_true.1 h d hd)

theorem not_isHigh_of_mem_spelling :
    ∀ entry ∈ Operator.readingTable, ∀ d ∈ entry.1.toList, ¬ IsHigh d := by
  have hall : ∀ entry ∈ Operator.readingTable, entry.1.toList.all fun d => ¬ IsHigh d := by
    decide
  exact fun entry hentry => not_isHigh_of_all (hall entry hentry)

theorem not_isStart_of_isHigh (h : IsHigh c) : ¬ Operator.isStart c := by
  intro hstart
  obtain ⟨entry, hentry, hhead⟩ := List.any_eq_true.1 hstart
  have hmem := List.mem_of_head? (of_decide_eq_true hhead)
  exact not_isHigh_of_mem_spelling entry hentry c hmem h

theorem not_isBound_of_isHigh (h : IsHigh c) : ¬ isBound c := by
  simp [isBound, h.not_isSeparator, not_isStart_of_isHigh h, h.ne (d := '[') (by decide),
    h.ne (d := '(') (by decide), h.ne (d := ')') (by decide)]

theorem not_startsVariable_of_isHigh (h : IsHigh c) : ¬ startsVariable c := by
  have halpha : ¬ c.isAlpha := fun halpha =>
    not_isAlphanum_of_isHigh h (by simp [Char.isAlphanum, halpha])
  simp [startsVariable, halpha, h.ne (d := '$') (by decide), h.ne (d := '@') (by decide)]

theorem sameOnHigh_of_forall {p : Char → Bool} (h : ∀ c, IsHigh c → ¬ p c) : SameOnHigh p := by
  intro c d hc hd
  rw [Bool.eq_false_iff.2 (h c hc), Bool.eq_false_iff.2 (h d hd)]

-- ════════════════════════════════════════════════════════════════════════
-- Numbers
-- ════════════════════════════════════════════════════════════════════════

theorem numberRun_of_isHigh (h : IsHigh c) (afterMark : Bool) (cs : List Char) :
    numberRun afterMark (c :: cs) = ([], c :: cs) := by
  simp [numberRun, not_isDigit_of_isHigh h, h.ne (d := '.') (by decide),
    h.ne (d := 'e') (by decide), h.ne (d := 'E') (by decide), h.ne (d := '+') (by decide),
    h.ne (d := '-') (by decide)]

theorem numberRun_octets (afterMark : Bool) (cs : List Char) :
    numberRun afterMark (octets cs) = (numberRun afterMark cs).map octets octets := by
  induction cs generalizing afterMark with
  | nil => rfl
  | cons c cs ih =>
    by_cases hc : IsHigh c
    · obtain ⟨b, tail, hoctets, hb⟩ := hc.exists_head_octets cs
      rw [numberRun_of_isHigh hc, hoctets, numberRun_of_isHigh hb, ← hoctets]
      rfl
    · rw [octets_cons hc]
      rcases numberRun_cons afterMark c with ⟨mark, _, hrun⟩ | hstop
      · rw [hrun, hrun cs, ih]
        simp only [Prod.map, octets_cons hc]
      · rw [hstop, hstop cs]
        simp only [Prod.map, octets_cons hc, octets_nil]

theorem readHex_octets [Regex.Engine] (cs : List Char) :
    readHex (octets cs) = (readHex cs).map (Prod.map id octets) := by
  have hsame : SameOnHigh Char.isAlphanum :=
    sameOnHigh_of_forall fun c hc => not_isAlphanum_of_isHigh hc
  have hdigits : octets (cs.takeWhile Char.isAlphanum) = cs.takeWhile Char.isAlphanum :=
    octets_eq_self fun c hc hhigh => not_isAlphanum_of_isHigh hhigh (List.mem_takeWhile_imp hc)
  simp only [readHex, takeWhile_octets hsame, dropWhile_octets hsame, hdigits]
  split
  · rfl
  · split <;> rfl

theorem hexDigits?_octets (cs : List Char) :
    hexDigits? (octets cs) = (hexDigits? cs).map octets := by
  have hx : ∀ c ∈ ['0', 'x'], ¬ IsHigh c := not_isHigh_of_all (by decide)
  have hX : ∀ c ∈ ['0', 'X'], ¬ IsHigh c := not_isHigh_of_all (by decide)
  rw [hexDigits?, hexDigits?, isPrefixOf?_octets hx, isPrefixOf?_octets hX, Option.map_or]

-- ════════════════════════════════════════════════════════════════════════
-- Texts and regular expressions
-- ════════════════════════════════════════════════════════════════════════

theorem stringBody_append {quote : Char} (hfront : ∀ c ∈ front, c ≠ '\\' ∧ c ≠ quote)
    (cs : List Char) :
    stringBody quote (front ++ cs) =
      (stringBody quote cs).map fun (body, rest) => (front ++ body, rest) := by
  induction front with
  | nil => simp
  | cons c front ih =>
    obtain ⟨⟨hbackslash, hquote⟩, hfront⟩ := List.forall_mem_cons.1 hfront
    rw [List.cons_append, stringBody_cons hbackslash, if_neg hquote, ih hfront]
    cases stringBody quote cs <;> rfl

theorem stringBody_octets {quote : Char} (hquote : ¬ IsHigh quote) (cs : List Char) :
    stringBody quote (octets cs) = (stringBody quote cs).map (Prod.map octets octets) := by
  have hbackslash : ¬ IsHigh '\\' := by decide
  fun_induction stringBody quote cs with
  | case1 => rfl
  | case2 => rw [octets_cons hbackslash]; rfl
  | case3 c cs hc ih =>
    have hlow : ¬ IsHigh c := by
      rcases hc with rfl | rfl
      · exact hquote
      · exact hbackslash
    rw [octets_cons hbackslash, octets_cons hlow, stringBody, if_pos hc, ih]
    cases stringBody quote cs <;> simp [Prod.map, octets_cons hlow]
  | case4 c cs hc ih =>
    obtain ⟨b, tail, hoctets, hb⟩ := exists_head_octets c cs
    have hb : ¬ (b = quote ∨ b = '\\') := by
      rcases hb with rfl | ⟨hb, _⟩
      · exact hc
      · exact not_or.2 ⟨hb.ne hquote, hb.ne hbackslash⟩
    rw [octets_cons hbackslash, hoctets, stringBody, if_neg hb, ← hoctets, ih]
    cases stringBody quote (c :: cs) <;> simp [Prod.map, octets_cons hbackslash]
  | case5 cs hend hpair =>
    rw [octets_cons hquote, stringBody_cons (ne_backslash_of_not_pair hend hpair), if_pos rfl]
    rfl
  | case6 c cs hend hpair hc ih =>
    have hne := ne_backslash_of_not_pair hend hpair
    rw [octets_cons_eq_append, stringBody_append (fun b hb => ⟨ne_of_mem_octets hbackslash hne hb,
      ne_of_mem_octets hquote hc hb⟩), ih]
    cases stringBody quote cs <;> simp [Prod.map, ← octets_cons_eq_append]

theorem regexpBody_append (hfront : ∀ c ∈ front, c ≠ '\\' ∧ c ≠ '/') (cs : List Char) :
    regexpBody (front ++ cs) = (regexpBody cs).map fun (body, rest) => (front ++ body, rest) := by
  induction front with
  | nil => simp
  | cons c front ih =>
    obtain ⟨⟨hbackslash, hslash⟩, hfront⟩ := List.forall_mem_cons.1 hfront
    rw [List.cons_append, regexpBody_cons hbackslash hslash, ih hfront]
    cases regexpBody cs <;> rfl

theorem regexpBody_octets (cs : List Char) :
    regexpBody (octets cs) = (regexpBody cs).map (Prod.map octets octets) := by
  have hbackslash : ¬ IsHigh '\\' := by decide
  have hslash : ¬ IsHigh '/' := by decide
  fun_induction regexpBody cs with
  | case1 => rfl
  | case2 => rw [octets_cons hbackslash]; rfl
  | case3 cs => rw [octets_cons hslash]; rfl
  | case4 cs ih =>
    rw [octets_cons hbackslash, octets_cons hslash, regexpBody, ih]
    cases regexpBody cs <;> simp [Prod.map, octets_cons hslash]
  | case5 c cs hc ih =>
    -- the backslash takes the first octet along, and the others are read one by one
    obtain ⟨b, high, hoctets, hb, hhigh⟩ := exists_octets_eq_cons c
    have hb : b ≠ '/' := by
      rcases hb with rfl | ⟨hb, _⟩
      · exact hc
      · exact hb.ne hslash
    rw [octets_cons hbackslash, octets_cons_eq_append, hoctets, List.cons_append,
      regexpBody_pair hb, regexpBody_append (fun d hd => ⟨(hhigh d hd).ne hbackslash,
        (hhigh d hd).ne hslash⟩), ih]
    cases regexpBody cs with
    | none => rfl
    | some read =>
      simp [Prod.map, octets_cons hbackslash, octets_cons_eq_append c read.1, hoctets]
  | case6 c cs hend hc _ hpair ih =>
    have hne := ne_backslash_of_not_pair hend hpair
    rw [octets_cons_eq_append, regexpBody_append (fun b hb => ⟨ne_of_mem_octets hbackslash hne hb,
      ne_of_mem_octets hslash hc hb⟩), ih]
    cases regexpBody cs <;> simp [Prod.map, ← octets_cons_eq_append]

theorem set?_of_isHigh (h : IsHigh c) (flags : Regex.Flags) : flags.set? c = none := by
  unfold Regex.Flags.set? Regex.Flags.switch?
  split
  · exact absurd h (by decide)
  · exact absurd h (by decide)
  · exact absurd h (by decide)
  · exact absurd h (by decide)
  · rfl

theorem readFlags_octets (flags : Regex.Flags) (cs : List Char) :
    readFlags flags (octets cs) = (readFlags flags cs).map id octets := by
  fun_induction readFlags flags cs with
  | case1 => rfl
  | case2 flags c cs flags' hset ih =>
    have hlow : ¬ IsHigh c := by
      intro hc
      rw [set?_of_isHigh hc] at hset
      cases hset
    rw [octets_cons hlow, readFlags, hset]
    exact ih
  | case3 flags c cs hset =>
    obtain ⟨b, tail, hoctets, hb⟩ := exists_head_octets c cs
    have hb : flags.set? b = none := by
      rcases hb with rfl | ⟨hb, _⟩
      · exact hset
      · exact set?_of_isHigh hb flags
    rw [hoctets, readFlags, hb, ← hoctets]
    rfl

-- ════════════════════════════════════════════════════════════════════════
-- Operators, keywords and variables
-- ════════════════════════════════════════════════════════════════════════

/-- What is found first in a table is found first for the octets, if each entry is. -/
theorem findSome?_octets {α β : Type} {table : List α} {find find' : α → Option (β × List Char)}
    (h : ∀ entry ∈ table, find entry = (find' entry).map (Prod.map id octets)) :
    table.findSome? find = (table.findSome? find').map (Prod.map id octets) := by
  induction table with
  | nil => rfl
  | cons entry table ih =>
    obtain ⟨hentry, htable⟩ := List.forall_mem_cons.1 h
    rw [List.findSome?_cons, List.findSome?_cons, hentry]
    cases find' entry with
    | none => exact ih htable
    | some read => rfl

theorem read?_octets (cs : List Char) :
    Operator.read? (octets cs) = (Operator.read? cs).map (Prod.map id octets) := by
  unfold Operator.read?
  apply findSome?_octets
  intro entry hentry
  dsimp only
  rw [isPrefixOf?_octets (not_isHigh_of_mem_spelling entry hentry), Option.map_map, Option.map_map]
  rfl

theorem endsName_octets (cs : List Char) : endsName (octets cs) = endsName cs := by
  cases cs with
  | nil => rfl
  | cons c cs =>
    obtain ⟨b, tail, hoctets, hb⟩ := exists_head_octets c cs
    rw [hoctets, endsName, endsName]
    rcases hb with rfl | ⟨hb, hc⟩
    · rfl
    · rw [Bool.eq_false_iff.2 (not_isBound_of_isHigh hb),
        Bool.eq_false_iff.2 (not_isBound_of_isHigh hc)]

theorem readKeyword?_octets [Regex.Engine] (cs : List Char) :
    readKeyword? (octets cs) = (readKeyword? cs).map (Prod.map id octets) := by
  have hall : ∀ entry ∈ keywords, entry.1.toList.all fun d => ¬ IsHigh d :=
    forall_mem_keywords (P := fun word => word.toList.all fun d => ¬ IsHigh d) (by decide)
  unfold readKeyword?
  apply findSome?_octets
  intro entry hentry
  dsimp only
  rw [isPrefixOf?_octets (not_isHigh_of_all (hall entry hentry))]
  cases entry.1.toList.isPrefixOf? cs with
  | none => rfl
  | some rest =>
    simp only [Option.map_some, endsName_octets]
    split <;> rfl

theorem withFirst_octets (hc : ¬ IsHigh c) (read : Except LexFault (List Char × List Char)) :
    withFirst c (read.map (Prod.map octets octets)) =
      (withFirst c read).map (Prod.map octets octets) := by
  rcases read with fault | ⟨path, rest⟩
  · rfl
  · simp [withFirst, Except.map, octets_cons hc]

variable {depth : Nat} {quote : Option Char}

/-- A character past ASCII opens and closes nothing. -/
theorem variablePath_of_isHigh (hquote : ∀ q ∈ quote, ¬ IsHigh q) (hc : IsHigh c) (depth : Nat)
    (cs : List Char) :
    variablePath depth quote (c :: cs) = withFirst c (variablePath depth quote cs) := by
  have hne : ∀ d, ¬ IsHigh d → c ≠ d := fun d hd => hc.ne hd
  rw [variablePath.eq_def]
  cases quote with
  | some q => simp only [hne '\\' (by decide), hne q (hquote q rfl), if_false]
  | none =>
    cases depth with
    | zero =>
      simp only [hne '[' (by decide), not_isBound_of_isHigh hc, if_false, Bool.false_eq_true]
    | succ depth =>
      simp only [hne '[' (by decide), hne ']' (by decide), hne '"' (by decide),
        hne '\'' (by decide), if_false, or_self]

theorem variablePath_append_of_isHigh (hquote : ∀ q ∈ quote, ¬ IsHigh q)
    (hfront : ∀ c ∈ front, IsHigh c) (depth : Nat) (cs : List Char) :
    variablePath depth quote (front ++ cs) =
      (variablePath depth quote cs).map fun (path, rest) => (front ++ path, rest) := by
  induction front with
  | nil =>
    rw [List.nil_append]
    cases variablePath depth quote cs <;> rfl
  | cons c front ih =>
    obtain ⟨hc, hfront⟩ := List.forall_mem_cons.1 hfront
    rw [List.cons_append, variablePath_of_isHigh hquote hc, ih hfront]
    cases variablePath depth quote cs <;> rfl

theorem variablePath_octets_of_isHigh (hquote : ∀ q ∈ quote, ¬ IsHigh q) (hc : IsHigh c)
    (h : variablePath depth quote (octets cs) =
      (variablePath depth quote cs).map (Prod.map octets octets)) :
    variablePath depth quote (octets (c :: cs)) =
      (withFirst c (variablePath depth quote cs)).map (Prod.map octets octets) := by
  rw [octets_cons_eq_append, variablePath_append_of_isHigh hquote (isHigh_of_mem_octets hc), h]
  rcases variablePath depth quote cs with fault | ⟨path, rest⟩
  · rfl
  · simp [withFirst, Except.map, ← octets_cons_eq_append]

theorem variablePath_octets (hquote : ∀ q ∈ quote, ¬ IsHigh q) (depth : Nat) (cs : List Char) :
    variablePath depth quote (octets cs) =
      (variablePath depth quote cs).map (Prod.map octets octets) := by
  have hbackslash : ¬ IsHigh '\\' := by decide
  have hnone : ∀ q ∈ (none : Option Char), ¬ IsHigh q := nofun
  fun_induction variablePath depth quote cs with
  | case1 | case2 | case3 => rfl
  | case4 depth q =>
    rw [octets_cons hbackslash, variablePath.eq_def]
    rfl
  | case5 depth q d cs ih =>
    -- the backslash takes the first octet along, and the others are read one by one
    obtain ⟨b, high, hoctets, _, hhigh⟩ := exists_octets_eq_cons d
    rw [octets_cons hbackslash, octets_cons_eq_append, hoctets, List.cons_append,
      variablePath.eq_def]
    simp only [if_true]
    rw [variablePath_append_of_isHigh hquote hhigh, ih hquote]
    rcases variablePath depth (some q) cs with fault | ⟨path, rest⟩
    · rfl
    · simp [withFirst, Except.map, octets_cons hbackslash, octets_cons_eq_append d path, hoctets]
  | case6 depth c cs q hc ih =>
    by_cases hhigh : IsHigh c
    · rw [if_neg (hhigh.ne (hquote q rfl))] at ih ⊢
      exact variablePath_octets_of_isHigh hquote hhigh (ih hquote)
    · have hclosed : ∀ d ∈ (if c = q then none else some q), ¬ IsHigh d := by
        split
        · exact hnone
        · exact hquote
      rw [octets_cons hhigh, variablePath.eq_def]
      simp only [hc, if_false]
      rw [ih hclosed, withFirst_octets hhigh]
  | case7 cs ih =>
    rw [octets_cons (by decide), variablePath, if_pos rfl, ih hnone, withFirst_octets (by decide)]
  | case8 c cs hbracket hbound =>
    have hlow : ¬ IsHigh c := fun hhigh => not_isBound_of_isHigh hhigh hbound
    rw [octets_cons hlow, variablePath, if_neg hbracket, if_pos hbound, ← octets_cons hlow]
    rfl
  | case9 c cs hbracket hbound ih =>
    by_cases hhigh : IsHigh c
    · exact variablePath_octets_of_isHigh hnone hhigh (ih hnone)
    · rw [octets_cons hhigh, variablePath, if_neg hbracket, if_neg hbound, ih hnone,
        withFirst_octets hhigh]
  | case10 c cs depth inside opened ih =>
    have hopened : ∀ q ∈ opened, ¬ IsHigh q := by
      intro q hq
      simp only [opened, Option.mem_ite_none_right] at hq
      obtain ⟨hc, hq⟩ := hq
      obtain rfl := Option.some.inj hq
      rcases hc with rfl | rfl <;> decide
    by_cases hhigh : IsHigh c
    · have hne : ∀ d, ¬ IsHigh d → c ≠ d := fun d hd => hhigh.ne hd
      have hinside : inside = depth + 1 := by
        simp only [inside, hne '[' (by decide), hne ']' (by decide), if_false]
      have hclosed : opened = none := by
        simp only [opened, hne '"' (by decide), hne '\'' (by decide), or_self, if_false]
      rw [hinside, hclosed] at ih ⊢
      exact variablePath_octets_of_isHigh hnone hhigh (ih hnone)
    · have hstep : variablePath (depth + 1) none (c :: octets cs) =
          withFirst c (variablePath inside opened (octets cs)) := rfl
      rw [octets_cons hhigh, hstep, ih hopened, withFirst_octets hhigh]

-- ════════════════════════════════════════════════════════════════════════
-- Pieces
-- ════════════════════════════════════════════════════════════════════════

variable [Regex.Engine]

/-- The piece with the octets of its text. -/
def Piece.octets : Piece → Piece
  | token kind => token kind
  | number run => number (Text.octets run)
  | string body => string (Text.octets body)
  | regexp source flags => regexp (Text.octets source) flags
  | «variable» path => .variable (Text.octets path)

theorem cutNumber_octets (cs : List Char) :
    cutNumber (octets cs) = (cutNumber cs).map (Prod.map Piece.octets octets) := by
  rw [cutNumber, cutNumber, hexDigits?_octets]
  cases hexDigits? cs with
  | none =>
    simp only [Option.map_none, numberRun_octets]
    rfl
  | some digits =>
    simp only [Option.map_some, readHex_octets]
    cases readHex digits <;> rfl

theorem cutString_octets {quote : Char} (hquote : ¬ IsHigh quote) (cs : List Char) :
    cutString quote (octets cs) = (cutString quote cs).map (Prod.map Piece.octets octets) := by
  rw [cutString, cutString, stringBody_octets hquote]
  cases stringBody quote cs <;> rfl

theorem cutRegexp_octets (cs : List Char) :
    cutRegexp (octets cs) = (cutRegexp cs).map (Prod.map Piece.octets octets) := by
  rw [cutRegexp, cutRegexp, regexpBody_octets]
  cases regexpBody cs with
  | none => rfl
  | some read =>
    simp only [Option.map_some, Prod.map, readFlags_octets]
    rfl

theorem cutVariable_octets (cs : List Char) :
    cutVariable (octets cs) = (cutVariable cs).map (Prod.map Piece.octets octets) := by
  have hquote : ∀ q ∈ (none : Option Char), ¬ IsHigh q := nofun
  rw [cutVariable, cutVariable, variablePath_octets hquote]
  cases variablePath 0 none cs <;> rfl

theorem cut_of_isHigh (h : IsHigh c) (operandExpected : Bool) (cs : List Char) :
    cut operandExpected c cs = .error .invalidCharacter := by
  have hkeyword : readKeyword? (c :: cs) = none := by
    rw [Option.eq_none_iff_forall_ne_some]
    rintro ⟨value, rest⟩ hread
    exact not_startsVariable_of_isHigh h (takesUpTo_readKeyword? hread).1
  have hsize : ¬ c.toNat < 0x80 := Nat.not_lt_of_le h
  rw [cut, if_neg (h.ne (by decide)), if_neg (h.ne (by decide)),
    read?_eq_none_of_not_isStart (not_isStart_of_isHigh h)]
  simp only [not_isDigit_of_isHigh h, h.ne (d := '"') (by decide), h.ne (d := '\'') (by decide),
    hkeyword, not_startsVariable_of_isHigh h, hsize, or_self, if_false, Bool.false_eq_true]

theorem cut_octets_of_not_isHigh (hc : ¬ IsHigh c) (operandExpected : Bool) (cs : List Char) :
    cut operandExpected c (octets cs) =
      (cut operandExpected c cs).map (Prod.map Piece.octets octets) := by
  rw [cut, cut, ← octets_cons hc, read?_octets, readKeyword?_octets, cutNumber_octets,
    cutVariable_octets]
  split
  · rfl
  split
  · rfl
  cases Operator.read? (c :: cs) with
  | some read =>
    simp only [Option.map_some, Prod.map, id_eq, cutRegexp_octets]
    split
    · rfl
    · split <;> rfl
  | none =>
    simp only [Option.map_none]
    split
    · rfl
    split
    · exact cutString_octets hc cs
    cases readKeyword? (c :: cs) with
    | some read => rfl
    | none =>
      simp only [Option.map_none]
      split <;> rfl

/-- What is cut off the octets of a text are the octets of what is cut off the text. -/
theorem cut_octets {b : Char} {tail : List Char} (hoctets : octets (c :: cs) = b :: tail)
    (operandExpected : Bool) :
    cut operandExpected b tail =
      (cut operandExpected c cs).map (Prod.map Piece.octets octets) := by
  by_cases hc : IsHigh c
  · obtain ⟨b', tail', hoctets', hb⟩ := hc.exists_head_octets cs
    obtain ⟨rfl, rfl⟩ := List.cons.inj (hoctets.symm.trans hoctets')
    rw [cut_of_isHigh hc, cut_of_isHigh hb]
    rfl
  · obtain ⟨rfl, rfl⟩ := List.cons.inj (hoctets.symm.trans (octets_cons hc cs))
    exact cut_octets_of_not_isHigh hc operandExpected cs

end Lexer

end ScalarExpr

import ScalarExpr.Proofs.DecimalText
import ScalarExpr.Proofs.LiteralBodies
/-!
# What the readers of tokens leave

Each reader takes what belongs to its token. Behind the canonical form of a literal
it stops where a separator or nothing follows, and gives back what was written.

## Main definitions

- `Lexer.Separated` — a text that is empty or starts with a separator
- `Lexer.EndsPath` — a text that is empty or starts where a path ends

## Main statements

- `Lexer.read?_append_separated`, `Lexer.readKeyword?_append_of_endsName`: operators
  and keywords are read alike, whatever follows a separator or the end of a name
- `Lexer.stringBody_displayed`, `Lexer.regexpBody_escapeSlashes`, `Lexer.readFlags_letters`,
  `Lexer.readNumber_text`: literals are read back from their writing
- `Lexer.Unslashes.isPaired`: which sources the literals of regular expressions have
-/

namespace ScalarExpr

namespace Lexer

/-- Nothing, or a text that starts with a separator. -/
def Separated (rest : List Char) : Prop := ∀ c ∈ rest.head?, Text.isSeparator c

theorem separated_nil : Separated [] := by
  intro c hc
  cases hc

theorem isSeparator_iff {c : Char} :
    Text.isSeparator c ↔ c = ' ' ∨ c = '\t' ∨ c = '\n' ∨ c = '\x0c' ∨ c = '\r' ∨ c = ',' := by
  simp [Text.isSeparator, Text.isAsciiBlank, or_assoc]

theorem isBound_of_isSeparator {c : Char} (h : Text.isSeparator c) : isBound c := by
  simp [isBound, h]

theorem endsName_of_separated {rest : List Char} (h : Separated rest) : endsName rest := by
  cases rest with
  | nil => rfl
  | cons c rest => exact isBound_of_isSeparator (h c rfl)

theorem separated_of_forall {gap : List Char} (h : ∀ c ∈ gap, Text.isSeparator c) : Separated gap :=
  fun c hc => h c (List.mem_of_mem_head? hc)

theorem Separated.append {gap : List Char} (h : Separated gap) (hgap : gap ≠ []) (cs : List Char) :
    Separated (gap ++ cs) := by
  obtain ⟨c, gap, rfl⟩ := List.exists_cons_of_ne_nil hgap
  exact h

/-- A text is a prefix of another one, or not, whatever follows that one with a
    character that the text does not hold. -/
theorem isPrefixOf?_append_of_notMem {a rest : List Char} (h : ∀ c ∈ rest.head?, c ∉ a)
    (b : List Char) : a.isPrefixOf? (b ++ rest) = (a.isPrefixOf? b).map (· ++ rest) := by
  induction a generalizing b with
  | nil => rfl
  | cons c a ih =>
    have ih := ih fun c' hc' hmem => h c' hc' (List.mem_cons_of_mem c hmem)
    cases b with
    | nil =>
      cases rest with
      | nil => rfl
      | cons d rest =>
        have hne : ¬ (c == d) = true := fun heq => h d rfl (eq_of_beq heq ▸ List.mem_cons_self)
        change (if c == d then a.isPrefixOf? rest else none) = none
        rw [if_neg hne]
    | cons d b =>
      change (if c == d then a.isPrefixOf? (b ++ rest) else none) =
        (if c == d then a.isPrefixOf? b else none).map (· ++ rest)
      split
      · exact ih b
      · rfl

theorem not_isSeparator_of_mem_spelling {entry : String × Operator}
    (h : entry ∈ Operator.readingTable) : ∀ c ∈ entry.1.toList, ¬ Text.isSeparator c := by
  have hall : ∀ entry ∈ Operator.readingTable, entry.1.toList.all fun c => !Text.isSeparator c := by
    decide
  intro c hc
  simpa using List.all_eq_true.1 (hall entry h) c hc

/-- An operator at the head of a text is read alike, whatever follows the text
    after a separator. -/
theorem read?_append_separated {rest : List Char} (hrest : Separated rest) (cs : List Char) :
    Operator.read? (cs ++ rest) =
      (Operator.read? cs).map fun read => (read.1, read.2 ++ rest) := by
  have hall : ∀ entry ∈ Operator.readingTable, ∀ c ∈ entry.1.toList, ¬ Text.isSeparator c :=
    fun _ => not_isSeparator_of_mem_spelling
  unfold Operator.read?
  generalize Operator.readingTable = table at hall
  induction table with
  | nil => rfl
  | cons entry table ih =>
    have hhead : ∀ c ∈ rest.head?, c ∉ entry.1.toList := by
      intro c hc hmem
      exact hall entry List.mem_cons_self c hmem (hrest c hc)
    have hentry := isPrefixOf?_append_of_notMem hhead cs
    have ih := ih fun entry' hentry' => hall entry' (List.mem_cons_of_mem entry hentry')
    simp only [List.findSome?_cons, hentry]
    cases entry.1.toList.isPrefixOf? cs with
    | none => exact ih
    | some rest' => rfl

theorem read?_eq_none_of_not_isStart {c : Char} (h : ¬ Operator.isStart c) (cs : List Char) :
    Operator.read? (c :: cs) = none := by
  rw [Operator.read?, List.findSome?_eq_none_iff]
  rintro ⟨spelling, op⟩ hentry
  have hhead : spelling.toList.head? ≠ some c := fun hhead =>
    h (List.any_eq_true.2 ⟨(spelling, op), hentry, decide_eq_true hhead⟩)
  have hall : ∀ entry ∈ Operator.readingTable, entry.1.toList ≠ [] := by decide
  obtain ⟨d, ds, hspelling⟩ := List.exists_cons_of_ne_nil (hall _ hentry)
  dsimp only at hspelling ⊢
  rw [hspelling] at hhead ⊢
  have hd : ¬ (d == c) = true := fun heq => hhead (congrArg some (eq_of_beq heq))
  change Option.map _ (if d == c then ds.isPrefixOf? cs else none) = none
  rw [if_neg hd, Option.map_none]

/-- A spelling is read whole; that of the unary minus is read as a subtraction. -/
theorem read?_spelling (op : Operator) :
    Operator.read? op.spelling.toList =
      some (if op = .unary .minus then .arithmetic .minus else op, []) := by
  cases op with
  | logical op | bitwise op | comparison op | arithmetic op | unary op => cases op <;> rfl

theorem exists_spelling_eq_cons (op : Operator) : ∃ c tail, op.spelling.toList = c :: tail ∧
    ¬ Text.isSeparator c ∧ c ≠ '(' ∧ c ≠ ')' := by
  cases op with
  | logical op | bitwise op | comparison op | arithmetic op | unary op =>
    cases op <;> exact ⟨_, _, rfl, by decide⟩

theorem not_isStart_of_isDigit {c : Char} (h : c.isDigit) : ¬ Operator.isStart c := by
  have hall : ∀ entry ∈ Operator.readingTable, ¬ entry.1.toList.head?.any Char.isDigit := by
    decide
  intro hstart
  obtain ⟨entry, hentry, hhead⟩ := List.any_eq_true.1 hstart
  refine hall entry hentry ?_
  rw [of_decide_eq_true hhead]
  exact h

theorem not_isDigit_of_startsVariable {c : Char} (h : startsVariable c) : ¬ c.isDigit := by
  intro hdigit
  have hdigit : 48 ≤ c.toNat ∧ c.toNat ≤ 57 := Char.isDigit_iff_toNat.1 hdigit
  simp only [startsVariable, Bool.or_eq_true, decide_eq_true_eq] at h
  rcases h with (halpha | rfl) | rfl
  · rcases Bool.or_eq_true_iff.1 halpha with hcase | hcase
    · have hupper : c.val ≥ 'A'.val ∧ c.val ≤ 'Z'.val := of_decide_eq_true hcase
      have hfirst : 65 ≤ c.toNat := hupper.1
      omega
    · have hlower : c.val ≥ 'a'.val := of_decide_eq_true (Bool.and_eq_true_iff.1 hcase).1
      have hfirst : 97 ≤ c.toNat := hlower
      omega
  · exact absurd hdigit (by decide)
  · exact absurd hdigit (by decide)

-- ════════════════════════════════════════════════════════════════════════
-- Paths
-- ════════════════════════════════════════════════════════════════════════

/-- Nothing, or a text that starts with a character at which a path ends. -/
def EndsPath (rest : List Char) : Prop := ∀ c ∈ rest.head?, isBound c ∧ c ≠ '['

theorem endsPath_of_separated {rest : List Char} (h : Separated rest) : EndsPath rest := by
  intro c hc
  exact ⟨isBound_of_isSeparator (h c hc), fun heq => absurd (h c hc) (heq ▸ by decide)⟩

theorem endsName_of_endsPath {rest : List Char} (h : EndsPath rest) : endsName rest := by
  cases rest with
  | nil => rfl
  | cons c rest => exact (h c rfl).1

theorem variablePath_of_endsPath {behind : List Char} (h : EndsPath behind) :
    variablePath 0 none behind = .ok ([], behind) := by
  cases behind with
  | nil => rfl
  | cons c behind =>
    obtain ⟨hbound, hbracket⟩ := h c rfl
    simp only [variablePath, hbracket, hbound, if_false, if_true]

theorem endsPath_of_variablePath {depth : Nat} {quote : Option Char} {cs path rest : List Char}
    (h : variablePath depth quote cs = .ok (path, rest)) : EndsPath rest := by
  fun_induction variablePath depth quote cs generalizing path with
  | case1 | case3 | case4 => cases h
  | case2 =>
    cases h
    intro c hc
    cases hc
  | case5 depth q d cs ih =>
    obtain ⟨_, hd, _⟩ := withFirst_eq_ok.1 h
    obtain ⟨_, hp, _⟩ := withFirst_eq_ok.1 hd
    exact ih hp
  | case6 _ _ _ _ _ ih | case7 _ ih | case9 _ _ _ _ ih =>
    obtain ⟨_, hp, _⟩ := withFirst_eq_ok.1 h
    exact ih hp
  | case8 c cs hbracket hbound =>
    cases h
    rintro _ ⟨⟩
    exact ⟨hbound, hbracket⟩
  | case10 =>
    rename_i ih
    obtain ⟨_, hp, _⟩ := withFirst_eq_ok.1 h
    exact ih hp

/-- A path that was read is read alike before whatever ends a path. -/
theorem variablePath_append_of_endsPath {depth : Nat} {quote : Option Char}
    {cs path rest : List Char} (h : variablePath depth quote cs = .ok (path, rest))
    {behind : List Char} (hbehind : EndsPath behind) :
    variablePath depth quote (path ++ behind) = .ok (path, behind) := by
  fun_induction variablePath depth quote cs generalizing path with
  | case1 | case3 | case4 => cases h
  | case2 | case8 =>
    cases h
    exact variablePath_of_endsPath hbehind
  | case5 depth q d cs ih =>
    obtain ⟨_, hd, rfl⟩ := withFirst_eq_ok.1 h
    obtain ⟨path, hp, rfl⟩ := withFirst_eq_ok.1 hd
    simp only [List.cons_append, variablePath, if_true, ih hp, withFirst]
  | case6 _ _ _ _ hc ih =>
    obtain ⟨path, hp, rfl⟩ := withFirst_eq_ok.1 h
    rw [List.cons_append, variablePath.eq_def]
    dsimp only
    rw [if_neg hc, ih hp]
    rfl
  | case7 _ ih =>
    obtain ⟨path, hp, rfl⟩ := withFirst_eq_ok.1 h
    simp only [List.cons_append, variablePath, if_true, ih hp, withFirst]
  | case9 _ _ hbracket hbound ih =>
    obtain ⟨path, hp, rfl⟩ := withFirst_eq_ok.1 h
    rw [List.cons_append, variablePath, if_neg hbracket, if_neg hbound, ih hp]
    rfl
  | case10 =>
    rename_i ih
    obtain ⟨path, hp, rfl⟩ := withFirst_eq_ok.1 h
    change withFirst _ (variablePath _ _ (path ++ behind)) = _
    rw [ih hp]
    rfl

theorem exists_eq_cons_of_variablePath {c : Char} {tail path rest : List Char}
    (hc : startsVariable c) (h : variablePath 0 none (c :: tail) = .ok (path, rest)) :
    ∃ path', path = c :: path' := by
  have hbracket : c ≠ '[' := fun heq => absurd hc (heq ▸ by decide)
  rw [variablePath, if_neg hbracket, if_neg (not_isBound_of_startsVariable hc)] at h
  obtain ⟨path', _, hpath⟩ := withFirst_eq_ok.1 h
  exact ⟨path', hpath⟩

-- ════════════════════════════════════════════════════════════════════════
-- Keywords
-- ════════════════════════════════════════════════════════════════════════

section

variable [Regex.Engine]

/-- What holds of the three words holds of the word of each entry. -/
theorem forall_mem_keywords {P : String → Prop} (h : ∀ word ∈ ["true", "false", "null"], P word) :
    ∀ entry ∈ keywords, P entry.1 :=
  List.forall_mem_map.1 h

theorem exists_word_of_readKeyword? {cs rest : List Char} {v : Operand}
    (h : readKeyword? cs = some (v, rest)) :
    ∃ word, (word, v) ∈ keywords ∧ cs = word.toList ++ rest ∧ endsName rest := by
  obtain ⟨⟨word, value⟩, hentry, hword⟩ := List.exists_of_findSome?_eq_some h
  dsimp only at hword
  split at hword
  · rename_i rest' hprefix
    split at hword
    · rename_i hends
      cases hword
      exact ⟨word, hentry, Text.eq_append_of_isPrefixOf? hprefix, hends⟩
    · cases hword
  · cases hword

theorem readKeyword?_word : ∀ entry ∈ keywords, ∃ c tail, entry.1.toList = c :: tail ∧
    startsVariable c ∧ readKeyword? entry.1.toList = some (entry.2, []) := by
  intro entry hentry
  simp only [keywords, List.mem_cons, List.not_mem_nil, or_false] at hentry
  rcases hentry with rfl | rfl | rfl <;> dsimp only <;> exact ⟨_, _, rfl, rfl, rfl⟩

/-- What ends a name starts with no character of a keyword. -/
theorem notMem_word_of_endsName {rest : List Char} (h : endsName rest) :
    ∀ c ∈ rest.head?, ∀ entry ∈ keywords, c ∉ entry.1.toList := by
  intro c hc entry hentry hmem
  have hbound : isBound c := by
    cases rest with
    | nil => cases hc
    | cons d rest =>
      cases hc
      exact h
  have hword : entry.1.toList.all fun c => !isBound c :=
    forall_mem_keywords (P := fun word => word.toList.all fun c => !isBound c) (by decide) entry
      hentry
  have hnot := List.all_eq_true.1 hword c hmem
  rw [hbound] at hnot
  cases hnot

/-- A keyword at the head of a text is read alike, whatever follows the text that
    ends a name. -/
theorem readKeyword?_append_of_endsName {rest : List Char} (h : endsName rest)
    (cs : List Char) :
    readKeyword? (cs ++ rest) =
      (readKeyword? cs).map fun read => (read.1, read.2 ++ rest) := by
  have hall := fun entry hentry c hc => notMem_word_of_endsName h c hc entry hentry
  have hends : ∀ b, endsName (b ++ rest) = endsName b := by
    intro b
    cases b with
    | nil => exact h
    | cons c b => rfl
  unfold readKeyword?
  generalize keywords = table at hall
  induction table with
  | nil => rfl
  | cons entry table ih =>
    obtain ⟨word, value⟩ := entry
    have hentry := isPrefixOf?_append_of_notMem (hall _ List.mem_cons_self) cs
    have ih := ih fun entry' hentry' => hall entry' (List.mem_cons_of_mem _ hentry')
    dsimp only at hentry
    simp only [List.findSome?_cons, hentry]
    cases word.toList.isPrefixOf? cs with
    | none => exact ih
    | some rest' =>
      simp only [Option.map_some, hends]
      cases endsName rest' with
      | true => rfl
      | false => exact ih

end

-- ════════════════════════════════════════════════════════════════════════
-- Texts, regular expressions and numbers
-- ════════════════════════════════════════════════════════════════════════

theorem stringBody_displayed (body rest : List Char) :
    stringBody '"' ((body.flatMap fun c => if c = '"' ∨ c = '\\' then ['\\', c] else [c]) ++
      '"' :: rest) = some (body, rest) :=
  stringBody_of_unescapes (by decide) (unescapes_flatMap '"' body) rest

theorem escapeSlashes_slash (source : List Char) :
    Regexp.escapeSlashes ('/' :: source) = '\\' :: '/' :: Regexp.escapeSlashes source := rfl

theorem escapeSlashes_cons_of_ne {c : Char} (h : c ≠ '/') (source : List Char) :
    Regexp.escapeSlashes (c :: source) = c :: Regexp.escapeSlashes source := by
  rw [Regexp.escapeSlashes, List.flatMap_cons, if_neg h]
  rfl

/-- The source of a literal is paired, and no backslash takes a slash along: the one
    before a slash is left out. -/
theorem Unslashes.isPaired {written body : List Char} (h : Unslashes written body) :
    Regex.isPaired body ∧ '/' ∉ Regex.escaped body := by
  have hslash : '/' ≠ '\\' := by decide
  induction h with
  | nil => exact ⟨rfl, List.not_mem_nil⟩
  | slash _ ih =>
    rw [Regex.isPaired_cons hslash, Regex.escaped_cons hslash]
    exact ih
  | kept hc _ ih =>
    obtain ⟨hpaired, hnot⟩ := ih
    refine ⟨hpaired, fun hmem => ?_⟩
    rcases List.mem_cons.1 hmem with rfl | hmem
    · exact hc rfl
    · exact hnot hmem
  | plain _ hbackslash _ ih =>
    rw [Regex.isPaired_cons hbackslash, Regex.escaped_cons hbackslash]
    exact ih

/-- A source of this kind is read back from its writing. In any other one a backslash
    before a slash takes the backslash that is put there along. -/
theorem regexpBody_escapeSlashes {source : List Char} (hpaired : Regex.isPaired source)
    (hslash : '/' ∉ Regex.escaped source) (behind : List Char) :
    regexpBody (Regexp.escapeSlashes source ++ '/' :: behind) = some (source, behind) := by
  fun_induction Regex.isPaired source with
  | case1 => rfl
  | case2 => cases hpaired
  | case3 c cs ih =>
    obtain ⟨hc, hcs⟩ := not_or.1 (fun hmem => hslash (List.mem_cons.2 hmem))
    rw [escapeSlashes_cons_of_ne (by decide), escapeSlashes_cons_of_ne (Ne.symm hc),
      List.cons_append, List.cons_append, regexpBody, ih hpaired hcs]
    · rfl
    · exact Ne.symm hc
  | case4 c cs hend hpair ih =>
    have hbackslash := ne_backslash_of_not_pair hend hpair
    rw [Regex.escaped_cons hbackslash] at hslash
    by_cases hc : c = '/'
    · rw [hc, escapeSlashes_slash, List.cons_append, List.cons_append, regexpBody,
        ih hpaired hslash]
      rfl
    · rw [escapeSlashes_cons_of_ne hc, List.cons_append, regexpBody_cons hbackslash hc,
        ih hpaired hslash]
      rfl

theorem not_isSeparator_of_set? {flags flags' : Regex.Flags} {c : Char}
    (h : flags.set? c = some flags') : ¬ Text.isSeparator c := by
  intro hsep
  rcases isSeparator_iff.1 hsep with rfl | rfl | rfl | rfl | rfl | rfl <;> cases h

theorem readFlags_separated (flags : Regex.Flags) {rest : List Char} (hrest : Separated rest) :
    readFlags flags rest = (flags, rest) := by
  cases rest with
  | nil => rfl
  | cons c rest =>
    cases hset : flags.set? c with
    | none => rw [readFlags, hset]
    | some flags' => exact absurd (hrest c rfl) (not_isSeparator_of_set? hset)

theorem readFlags_letters (flags : Regex.Flags) {rest : List Char} (hrest : Separated rest) :
    readFlags .none (flags.letters ++ rest) = (flags, rest) := by
  obtain ⟨ignoreCase, multiLine, dotAll, ungreedy⟩ := flags
  cases ignoreCase <;> cases multiLine <;> cases dotAll <;> cases ungreedy <;>
    exact readFlags_separated _ hrest

/-- A run and what follows it are the text that they were read from. -/
theorem numberRun_append (afterMark : Bool) (cs : List Char) :
    (numberRun afterMark cs).1 ++ (numberRun afterMark cs).2 = cs := by
  induction cs generalizing afterMark with
  | nil => rfl
  | cons c cs ih =>
    unfold numberRun
    split
    · exact congrArg _ (ih false)
    split
    · exact congrArg _ (ih true)
    split
    · exact congrArg _ (ih false)
    · rfl

theorem numberRun_separated {rest : List Char} (afterMark : Bool) (hrest : Separated rest) :
    numberRun afterMark rest = ([], rest) := by
  cases rest with
  | nil => rfl
  | cons c rest =>
    rcases isSeparator_iff.1 (hrest c rfl) with rfl | rfl | rfl | rfl | rfl | rfl <;>
      cases afterMark <;> rfl

theorem numberRun_cons_digit {c : Char} (h : c.isDigit ∨ c = '.') (afterMark : Bool)
    (cs : List Char) :
    numberRun afterMark (c :: cs) = (c :: (numberRun false cs).1, (numberRun false cs).2) := by
  have hc : (c.isDigit || c = '.') = true := by simpa using h
  rw [numberRun, if_pos hc]

/-- Digits and points are part of a run, and the run goes on behind them. -/
theorem numberRun_digits {digits run cs rest : List Char}
    (hdigits : ∀ c ∈ digits, c.isDigit ∨ c = '.') (hrun : numberRun false cs = (run, rest)) :
    numberRun false (digits ++ cs) = (digits ++ run, rest) := by
  induction digits with
  | nil => exact hrun
  | cons c digits ih =>
    rw [List.cons_append, numberRun_cons_digit (hdigits c List.mem_cons_self),
      ih fun c' hc' => hdigits c' (List.mem_cons_of_mem c hc')]
    rfl

theorem not_hexMark_of_digits {c d : Char} {digits rest cs : List Char}
    (hdigits : ∀ c' ∈ c :: digits, c'.isDigit ∨ c' = '.') (hrest : Separated rest)
    (h : digits ++ rest = d :: cs) : d ≠ 'x' ∧ d ≠ 'X' := by
  cases digits with
  | nil =>
    rw [List.nil_append] at h
    have hd : Text.isSeparator d := hrest d (by rw [h]; rfl)
    rcases isSeparator_iff.1 hd with rfl | rfl | rfl | rfl | rfl | rfl <;> decide
  | cons d' digits =>
    rw [List.cons_append, List.cons.injEq] at h
    obtain ⟨rfl, _⟩ := h
    rcases hdigits d' (List.mem_cons_of_mem c List.mem_cons_self) with hd | rfl
    · constructor <;> rintro rfl <;> cases hd
    · decide

theorem readNumber_text [Regex.Engine] (m : Magnitude) {rest : List Char} (hrest : Separated rest) :
    readNumber ((Double.finite false m).text ++ rest) = .ok (.number (.finite false m), rest) := by
  obtain ⟨c, tail, htext, hc⟩ := Decimal.exists_text_eq_cons m.shortest
  have hdigits : ∀ c' ∈ c :: tail, c'.isDigit ∨ c' = '.' := fun c' hc' =>
    Decimal.isDigit_or_eq_of_mem_text (htext ▸ hc')
  have hread := Double.read?_text m
  have hrun := numberRun_digits hdigits (numberRun_separated false hrest)
  rw [List.append_nil] at hrun
  change (Numeral.read? m.shortest.text).map _ = _ at hread
  change readNumber (m.shortest.text ++ rest) = _
  obtain ⟨n, hn, htoDouble⟩ := Option.map_eq_some_iff.1 hread
  rw [htext] at hn ⊢
  unfold readNumber
  split
  · rename_i heq
    exact absurd rfl (not_hexMark_of_digits hdigits hrest (List.cons.inj heq).2).1
  · rename_i heq
    exact absurd rfl (not_hexMark_of_digits hdigits hrest (List.cons.inj heq).2).2
  · simp only [hrun, hn, htoDouble]

end Lexer

end ScalarExpr

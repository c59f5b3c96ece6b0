import ScalarExpr.Proofs.Meaning
import ScalarExpr.Proofs.Source
import ScalarExpr.Regex.Dialect
import ScalarExpr.Scope
/-!
# Names of bindings

A name can be bound if it starts with a letter, holds no character at which a name
ends, and is no keyword. In parentheses such a name is read and resolved to what is
bound to it. A text that is nothing but a name loses the white space at its end
before it is read, and white space beyond ASCII, or a vertical tab, may end a name.
Such a name is cut short, so that another value is looked up.

## Main definitions

- `Lexer.IsName` — the characters of a name
- `Scope.loneName` — the name that is read if a name is the whole text
- `Scope.IsRooted` — the paths that lead into the document

## Main statements

- `Scope.isBindingName_iff`: the names that can be bound
- `evaluateText_lone`: the value of a text that is a name
- `Scope.evaluateText_of_set`: where a binding is read back
-/

namespace ScalarExpr

namespace Lexer

variable {cs rest : List Char}

/-- A letter first, and no character at which a name ends. -/
structure IsName (cs : List Char) : Prop where
  first : ∃ c ∈ cs.head?, c.isAlpha
  unbound : ∀ c ∈ cs, ¬ isBound c

theorem IsName.exists_eq_cons (h : IsName cs) : ∃ c tail, cs = c :: tail ∧ c.isAlpha := by
  obtain ⟨c, hc, halpha⟩ := h.first
  cases cs with
  | nil => cases hc
  | cons d tail =>
    cases hc
    exact ⟨c, tail, rfl, halpha⟩

theorem isName_iff (cs : List Char) :
    IsName cs ↔ cs.head?.any Char.isAlpha ∧ cs.all fun c => !isBound c := by
  constructor
  · intro h
    obtain ⟨c, tail, rfl, halpha⟩ := h.exists_eq_cons
    exact ⟨halpha, List.all_eq_true.2 fun d hd => by simpa using h.unbound d hd⟩
  · rintro ⟨hfirst, hall⟩
    refine ⟨?_, fun c hc => by simpa using List.all_eq_true.1 hall c hc⟩
    cases cs with
    | nil => cases hfirst
    | cons c tail => exact ⟨c, rfl, hfirst⟩

instance (cs : List Char) : Decidable (IsName cs) := decidable_of_iff _ (isName_iff cs).symm

theorem startsVariable_of_isAlpha {c : Char} (h : c.isAlpha) : startsVariable c := by
  simp [startsVariable, h]

theorem not_isSeparator_of_isName {c : Char} {tail : List Char} (h : IsName (c :: tail)) :
    ¬ Text.isSeparator c := fun hsep =>
  h.unbound c List.mem_cons_self (isBound_of_isSeparator hsep)

-- ════════════════════════════════════════════════════════════════════════
-- Keywords and paths among names
-- ════════════════════════════════════════════════════════════════════════

theorem isPrefixOf?_self (cs : List Char) : cs.isPrefixOf? cs = some [] := by
  induction cs with
  | nil => rfl
  | cons c cs ih =>
    change (if c == c then cs.isPrefixOf? cs else none) = some []
    rw [if_pos (beq_self_eq_true c), ih]

theorem variablePath_of_unbound (h : ∀ c ∈ cs, ¬ isBound c) (hrest : EndsPath rest) :
    variablePath 0 none (cs ++ rest) = .ok (cs, rest) := by
  induction cs with
  | nil => exact variablePath_of_endsPath hrest
  | cons c cs ih =>
    have hbound := h c List.mem_cons_self
    have hbracket : c ≠ '[' := fun heq => hbound (heq ▸ rfl)
    rw [List.cons_append, variablePath, if_neg hbracket, if_neg hbound,
      ih fun d hd => h d (List.mem_cons_of_mem c hd), withFirst]

/-- A path without brackets holds no character at which a name ends. -/
theorem unbound_of_variablePath {path : List Char}
    (h : variablePath 0 none cs = .ok (path, rest)) (hbracket : '[' ∉ path) :
    ∀ c ∈ path, ¬ isBound c := by
  induction cs generalizing path with
  | nil =>
    cases h
    exact fun c hc => nomatch hc
  | cons c cs ih =>
    rw [variablePath] at h
    split at h
    · rename_i hc
      obtain ⟨path', _, rfl⟩ := withFirst_eq_ok.1 h
      exact absurd (hc ▸ List.mem_cons_self) hbracket
    split at h
    · cases h
      exact fun c hc => nomatch hc
    · rename_i hbound
      obtain ⟨path', hpath, rfl⟩ := withFirst_eq_ok.1 h
      intro d hd
      rcases List.mem_cons.1 hd with rfl | hd
      · exact hbound
      · exact ih hpath (fun hmem => hbracket (List.mem_cons_of_mem c hmem)) d hd

variable [Regex.Engine]

/-- Of the characters that can stand in a name, a keyword is read if they are one. -/
theorem readKeyword?_of_unbound (h : ∀ c ∈ cs, ¬ isBound c) :
    readKeyword? cs = (keywords.lookup (String.ofList cs)).map (·, []) := by
  unfold readKeyword?
  generalize keywords = table
  induction table with
  | nil => rfl
  | cons entry table ih =>
    obtain ⟨word, value⟩ := entry
    rw [List.findSome?_cons, List.lookup_cons]
    dsimp only
    by_cases hword : String.ofList cs = word
    · subst hword
      simp only [beq_self_eq_true, String.toList_ofList, isPrefixOf?_self]
      rfl
    · rw [beq_eq_false_iff_ne.2 hword]
      cases hprefix : word.toList.isPrefixOf? cs with
      | none => exact ih
      | some behind =>
        have happend := Text.eq_append_of_isPrefixOf? hprefix
        cases behind with
        | nil =>
          rw [List.append_nil] at happend
          exact absurd (by rw [happend, String.ofList_toList]) hword
        | cons c behind =>
          have hc : endsName (c :: behind) = false :=
            Bool.eq_false_iff.2 (h c (happend ▸ List.mem_append_right _ List.mem_cons_self))
          simp only [hc, Bool.false_eq_true, if_false]
          exact ih

/-- A name is read as a keyword or as a variable. -/
def nameKind (name : String) : TokenKind :=
  match keywords.lookup name with
  | some value => .literal value
  | none => .variable name

theorem readToken_name {c : Char} {tail : List Char} (h : IsName (c :: tail))
    (hrest : EndsPath rest) (operandExpected : Bool) :
    readToken operandExpected c (tail ++ rest) =
      .ok (nameKind (String.ofList (c :: tail)), rest) := by
  obtain ⟨_, _, heq, halpha⟩ := h.exists_eq_cons
  cases heq
  rw [readToken_startsVariable (startsVariable_of_isAlpha halpha), ← List.cons_append,
    readKeyword?_append_of_endsName (endsName_of_endsPath hrest), readKeyword?_of_unbound h.unbound,
    readVariable, variablePath_of_unbound h.unbound hrest, nameKind]
  cases keywords.lookup (String.ofList (c :: tail)) <;> rfl

/-- A name is the next token wherever a path would end behind it. -/
theorem tokensFrom_name (h : IsName cs) (hrest : EndsPath rest) (operandExpected : Bool)
    (offset : Nat) :
    tokensFrom operandExpected offset (cs ++ rest) =
      (tokensFrom false (offset + Text.byteLength cs) rest).map
        (⟨nameKind (String.ofList cs), offset⟩ :: ·) := by
  obtain ⟨c, tail, rfl, halpha⟩ := h.exists_eq_cons
  have hexpects : (nameKind (String.ofList (c :: tail))).expectsOperand = false := by
    unfold nameKind
    split <;> rfl
  rw [tokensFrom_cons (not_isSeparator_of_isName h) (readToken_name h hrest operandExpected),
    hexpects]

/-- Before a separator, or as a whole text, a name is its one token. -/
theorem lexesAs_name (h : IsName cs) (operandExpected : Bool) :
    LexesAs operandExpected cs (nameKind (String.ofList cs)) := by
  obtain ⟨c, tail, rfl, _⟩ := h.exists_eq_cons
  refine ⟨c, tail, rfl, not_isSeparator_of_isName h, fun rest hrest => ?_⟩
  exact readToken_name h (endsPath_of_separated hrest) operandExpected

/-- A variable that is the whole text, starts with a letter and has no bracket is a
    name and no keyword. -/
theorem isName_of_tokenize {c : Char} {tail : List Char} {name : String} {offset : Nat}
    (h : tokenize name = .ok [⟨.variable name, offset⟩]) (hname : name.toList = c :: tail)
    (halpha : c.isAlpha) (hbracket : '[' ∉ name.toList) :
    IsName name.toList ∧ keywords.lookup name = none := by
  have hdrop : name.toList.dropWhile Text.isSeparator = c :: tail := by
    rw [hname]
    exact List.dropWhile_cons_of_neg fun hsep =>
      not_isBound_of_startsVariable (startsVariable_of_isAlpha halpha) (isBound_of_isSeparator hsep)
  rcases exists_readToken_of_tokensFrom h with
    ⟨_, hnil⟩ | ⟨c', tail', kind, rest, start, offset', tokens', hcons, hread, _, heq⟩
  · cases hnil
  · cases heq
    rw [hdrop] at hcons
    cases hcons
    obtain ⟨_, hkeyword, hpath⟩ := readToken_eq_variable hread
    have hunbound := unbound_of_variablePath hpath hbracket
    rw [← hname, readKeyword?_of_unbound hunbound, String.ofList_toList,
      Option.map_eq_none_iff] at hkeyword
    exact ⟨⟨⟨c, by rw [hname]; rfl, halpha⟩, hunbound⟩, hkeyword⟩

end Lexer

open Lexer

-- ════════════════════════════════════════════════════════════════════════
-- Names in texts
-- ════════════════════════════════════════════════════════════════════════

theorem not_isBlank_of_isAlpha {c : Char} (h : c.isAlpha) : ¬ Unicode.isBlank c := by
  rcases Bool.or_eq_true_iff.1 h with hcase | hcase
  · have hupper : c.val ≥ 'A'.val ∧ c.val ≤ 'Z'.val := of_decide_eq_true hcase
    have hfirst : 'A'.toNat ≤ c.toNat := hupper.1
    have hlast : c.toNat ≤ 'Z'.toNat := hupper.2
    exact Unicode.not_isBlank_of_visible (Nat.le_trans (by decide) hfirst)
      (Nat.le_trans hlast (by decide))
  · obtain ⟨hlower, hupper⟩ := Bool.and_eq_true_iff.1 hcase
    have hfirst : 'a'.toNat ≤ c.toNat := of_decide_eq_true hlower
    have hlast : c.toNat ≤ 'z'.toNat := of_decide_eq_true hupper
    exact Unicode.not_isBlank_of_visible (Nat.le_trans (by decide) hfirst)
      (Nat.le_trans hlast (by decide))

/-- A name loses what a text loses at its end and is a name still. -/
theorem Lexer.IsName.trimEnd {cs : List Char} (h : IsName cs) : IsName (Text.trimEnd cs) := by
  refine ⟨?_, fun c hc => h.unbound c ((Text.trimEnd_prefix cs).subset hc)⟩
  obtain ⟨c, tail, rfl, halpha⟩ := h.exists_eq_cons
  rw [Text.trimEnd_cons (not_isBlank_of_isAlpha halpha)]
  exact ⟨c, rfl, halpha⟩

/-- The name that is read if a name is the whole text: white space at its end is no
    part of it. -/
def Scope.loneName (name : String) : String := String.ofList (Text.trimEnd name.toList)

theorem Scope.toList_loneName (name : String) : (loneName name).toList = Text.trimEnd name.toList :=
  String.toList_ofList

section

variable [Regex.Engine]

/-- A text that is a name has the value of a keyword, or else the one that the
    resolver gives to the name. -/
theorem evaluateText_lone {text : String} (h : IsName text.toList) (resolver : Resolver) :
    evaluateText text { resolver := some resolver } =
      match keywords.lookup (Scope.loneName text) with
      | some value => pure value
      | none => .ask (Scope.loneName text) (resolver (Scope.loneName text)) := by
  have hread : ReadAs text [⟨nameKind (Scope.loneName text), 0⟩] :=
    tokensFrom_lone (lexesAs_name h.trimEnd true) 0
  rw [evaluateText, hread.parse_eq, nameKind]
  cases keywords.lookup (Scope.loneName text) with
  | some value => exact evaluate_preorder (some resolver) (.literal value 0)
  | none => exact evaluate_preorder (some resolver) (.variable (Scope.loneName text) 0)

/-- In parentheses a name is read whole, whatever it ends in. -/
theorem evaluateText_grouped {name : String} (h : IsName name.toList)
    (hkeyword : keywords.lookup name = none) (resolver : Resolver) :
    evaluateText ("(" ++ name ++ ")") { resolver := some resolver } =
      .ask name (resolver name) := by
  have htext : ("(" ++ name ++ ")").toList = '(' :: (name.toList ++ [')']) := by
    simp [String.toList_append]
  have hblank : ¬ Unicode.isBlank ')' := by decide
  have htrim : Text.trimEnd ("(" ++ name ++ ")").toList = '(' :: (name.toList ++ [')']) := by
    rw [htext, ← List.cons_append]
    exact Text.trimEnd_append_singleton hblank _
  have hkind : nameKind (String.ofList name.toList) = .variable name := by
    rw [String.ofList_toList, nameKind, hkeyword]
  have hclose : EndsPath [')'] := by
    rintro _ ⟨⟩
    decide
  have hread : ReadAs ("(" ++ name ++ ")")
      [⟨.leftParen, 0⟩, ⟨.variable name, 1⟩, ⟨.rightParen, 1 + Text.byteLength name.toList⟩] := by
    have hend : tokensFrom false (1 + Text.byteLength name.toList) [')'] =
        .ok [⟨.rightParen, 1 + Text.byteLength name.toList⟩] :=
      tokensFrom_eq_cons rfl rfl (tokensFrom_of_dropWhile_eq_nil rfl)
    have hinside := tokensFrom_name h hclose true 1
    rw [hkind, hend] at hinside
    have hsep : ¬ Text.isSeparator '(' := by decide
    have hopen : readToken true '(' ([] ++ (name.toList ++ [')'])) =
        .ok (.leftParen, name.toList ++ [')']) := rfl
    rw [ReadAs, htrim]
    exact (tokensFrom_cons hsep hopen 0).trans (congrArg _ hinside)
  rw [evaluateText, hread.parse_eq]
  exact evaluate_preorder (some resolver) (.variable name 1)

-- ════════════════════════════════════════════════════════════════════════
-- Bindings
-- ════════════════════════════════════════════════════════════════════════

namespace Scope

/-- The path leads into the document. -/
def IsRooted (path : String) : Prop :=
  path.toList.head? = some '$' ∨ path.toList.head? = some '@'

variable {scope scope' : Scope} {name : String} {value : Operand}

/-- A name that is no keyword is read as one variable. -/
theorem tokenize_of_isName (h : IsName name.toList) (hkeyword : keywords.lookup name = none) :
    tokenize name = .ok [⟨.variable name, 0⟩] := by
  rw [tokenize, tokensFrom_lone (lexesAs_name h true), String.ofList_toList, nameKind, hkeyword]

/-- A name can be bound exactly if it is a name, from its first character to its last,
    and no keyword. -/
theorem isBindingName_iff (name : String) :
    isBindingName name ↔ IsName name.toList ∧ keywords.lookup name = none := by
  constructor
  · intro h
    simp only [isBindingName, Bool.and_eq_true, Bool.not_eq_true'] at h
    obtain ⟨⟨hfirst, hbracket⟩, htokens⟩ := h
    have hbracket : '[' ∉ name.toList := by simpa using hbracket
    split at htokens
    · rename_i t ht
      obtain ⟨kind, offset⟩ := t
      obtain rfl : kind = .variable name := of_decide_eq_true htokens
      cases hname : name.toList with
      | nil =>
        rw [hname] at hfirst
        cases hfirst
      | cons c tail =>
        rw [hname] at hfirst
        rw [← hname]
        exact isName_of_tokenize ht hname hfirst hbracket
    · cases htokens
  · rintro ⟨hname, hkeyword⟩
    have htokens := tokenize_of_isName hname hkeyword
    have hbracket : '[' ∉ name.toList := fun hmem => hname.unbound _ hmem rfl
    obtain ⟨c, tail, heq, halpha⟩ := hname.exists_eq_cons
    rw [isBindingName, htokens, heq]
    rw [heq] at hbracket
    simp [halpha, hbracket]

theorem isBindingName_of_set (h : scope.set name value = .ok scope') : isBindingName name := by
  rw [set] at h
  split at h
  · assumption
  · cases h

theorem lookup_filter_of_ne {bindings : List (String × Operand)} {other : String}
    (h : other ≠ name) : (bindings.filter (·.1 ≠ name)).lookup other = bindings.lookup other := by
  induction bindings with
  | nil => rfl
  | cons b bindings ih =>
    by_cases hb : b.1 = name
    · have hother : (other == b.1) = false := beq_eq_false_iff_ne.2 (hb ▸ h)
      rw [List.filter_cons_of_neg (by simp [hb]), ih, List.lookup_cons, hother]
    · rw [List.filter_cons_of_pos (by simp [hb]), List.lookup_cons, List.lookup_cons, ih]

/-- What is set is what is got, and no other name is touched. -/
theorem get?_of_set (h : scope.set name value = .ok scope') (other : String) :
    scope'.get? other = if other = name then some value else scope.get? other := by
  rw [set] at h
  split at h
  · cases h
    rw [get?, List.lookup_cons]
    by_cases hother : other = name
    · rw [if_pos hother, beq_iff_eq.2 hother]
    · rw [if_neg hother, beq_eq_false_iff_ne.2 hother]
      exact lookup_filter_of_ne hother
  · cases h

/-- A path that leads into no document is looked up among the bindings. -/
theorem resolve_of_not_isRooted (scope : Scope) (h : ¬ IsRooted name) :
    scope.resolve name =
      match scope.get? name with
      | some value => .ok value
      | none => .error (.variableNotFound name) := by
  rw [resolve]
  split
  · exact absurd (.inl (by simp [*])) h
  · exact absurd (.inr (by simp [*])) h
  · rfl

omit [Regex.Engine] in
theorem not_isRooted_of_isName (h : IsName name.toList) : ¬ IsRooted name := by
  obtain ⟨c, tail, heq, halpha⟩ := h.exists_eq_cons
  rw [IsRooted, heq]
  rintro (hroot | hroot)
  · cases hroot
    cases halpha
  · cases hroot
    cases halpha

/-- A name is looked up among the bindings. -/
theorem resolve_of_isName (scope : Scope) (h : IsName name.toList) :
    scope.resolve name =
      match scope.get? name with
      | some value => .ok value
      | none => .error (.variableNotFound name) :=
  scope.resolve_of_not_isRooted (not_isRooted_of_isName h)

/-- A binding is read back by its name in parentheses. By the name alone it is read
    back exactly if the name does not end in white space, or if what is left without
    it happens to stand for an equal value. -/
theorem evaluateText_of_set (h : scope.set name value = .ok scope') :
    evaluateText ("(" ++ name ++ ")") { resolver := some scope'.resolve } =
        ⟨[name], .ok value⟩ ∧
      ((evaluateText name { resolver := some scope'.resolve }).result = .ok value ↔
        loneName name = name ∨
          (keywords.lookup (loneName name)).or (scope.get? (loneName name)) = some value) := by
  obtain ⟨hname, hkeyword⟩ := (isBindingName_iff name).1 (isBindingName_of_set h)
  have hget := get?_of_set h
  have hlone : IsName (loneName name).toList := by
    rw [toList_loneName]
    exact hname.trimEnd
  constructor
  · rw [evaluateText_grouped hname hkeyword, resolve_of_isName scope' hname, hget, if_pos rfl]
    rfl
  · rw [evaluateText_lone hname, resolve_of_isName scope' hlone, hget]
    by_cases hsame : loneName name = name
    · rw [hsame, hkeyword, if_pos rfl]
      simp [Run.ask]
    · rw [if_neg hsame]
      simp only [hsame, false_or]
      cases keywords.lookup (loneName name) with
      | some word => simp [pure, Run.of]
      | none => cases scope.get? (loneName name) <;> simp [Run.ask]

end Scope

end

namespace Scope

/-- `item_2.count` is read back both ways. -/
theorem evaluateText_of_set_dotted :
    let name := "item_2.count"
    let bound : Scope := { bindings := [(name, .boolean true)] }
    ({} : Scope).set name (.boolean true) = .ok bound ∧
      evaluateText "(item_2.count)" { resolver := some bound.resolve } =
        ⟨[name], .ok (.boolean true)⟩ ∧
      (evaluateText name { resolver := some bound.resolve }).result = .ok (.boolean true) := by
  intro name bound
  have hset : ({} : Scope).set name (.boolean true) = .ok bound := by
    have hname : IsName "item_2.count".toList := by decide
    rw [set, if_pos ((isBindingName_iff name).2 ⟨hname, rfl⟩)]
    rfl
  obtain ⟨hgrouped, hlone⟩ := evaluateText_of_set hset
  exact ⟨hset, hgrouped, hlone.2 (.inl (by decide +kernel))⟩

/-- A no-break space may end a name, and is cut off from a text that is nothing else. -/
theorem evaluateText_blank_last :
    ¬ ∀ (scope scope' : Scope) (name : String) (value : Operand),
      scope.set name value = .ok scope' →
        (evaluateText name { resolver := some scope'.resolve }).result = .ok value ∧
          (evaluateText ("(" ++ name ++ ")") { resolver := some scope'.resolve }).result =
            .ok value := by
  intro h
  have hname : IsName "a\u00a0".toList := by decide
  let bound : Scope := { bindings := [("a\u00a0", .null)] }
  have hset : ({} : Scope).set "a\u00a0" .null = .ok bound := by
    rw [set, if_pos ((isBindingName_iff _).2 ⟨hname, rfl⟩)]
    rfl
  obtain ⟨hvalue, _⟩ := h {} bound "a\u00a0" .null hset
  have hlone : loneName "a\u00a0" = "a" := by decide +kernel
  have hunbound : bound.resolve "a" = .error (.variableNotFound "a") := rfl
  rw [evaluateText_lone hname, hlone, hunbound] at hvalue
  cases hvalue

end Scope

end ScalarExpr

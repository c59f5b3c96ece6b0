import ScalarExpr.Token.Lexer
/-!
# The bodies of literals

What stands between the quotes of a string literal is read from the left. A backslash
before the quote or before a backslash makes a pair with it and stands for nothing, any
other backslash for itself. What stands between the slashes of a regexp literal is read in
pairs as well; there a backslash stands for nothing before a slash alone. The literal ends
at the first quote, or slash, that is reached in this way.

## Main definitions

- `Lexer.Unescapes` — what is written between quotes and the text that it stands for
- `Lexer.Unslashes` — what is written between slashes and the source that it stands for
- `Regex.isPaired`, `Regex.escaped` — whether each backslash of a source takes a character
  along, and which characters are taken along

## Main statements

- `Lexer.stringBody_eq_some_iff`, `Lexer.regexpBody_eq_some_iff`: what the bodies are
- `Lexer.unescapes_flatMap`: every text can be written between quotes
- `Lexer.Unescapes.subset`, `Lexer.Unslashes.subset`: no character is made up
-/

namespace ScalarExpr

namespace Regex

/-- Each backslash takes a character along, pairs being made from the left: none is left over
    at the end. -/
def isPaired : List Char → Bool
  | [] => true
  | ['\\'] => false
  | '\\' :: _ :: cs => isPaired cs
  | _ :: cs => isPaired cs

/-- The characters that are taken along by backslashes. -/
def escaped : List Char → List Char
  | [] => []
  | ['\\'] => []
  | '\\' :: c :: cs => c :: escaped cs
  | _ :: cs => escaped cs

theorem isPaired_cons {c : Char} (h : c ≠ '\\') (cs : List Char) :
    isPaired (c :: cs) = isPaired cs := by
  rw [isPaired]
  · exact fun hc _ => h hc
  · exact fun _ _ hc _ => h hc

theorem escaped_cons {c : Char} (h : c ≠ '\\') (cs : List Char) :
    escaped (c :: cs) = escaped cs := by
  rw [escaped]
  · exact fun hc _ => h hc
  · exact fun _ _ hc _ => h hc

end Regex

namespace Lexer

/-- A text within quotes, the writing before the text. -/
inductive Unescapes (quote : Char) : List Char → List Char → Prop where
  | nil : Unescapes quote [] []
  | pair {c : Char} {written body : List Char} (hc : c = quote ∨ c = '\\')
    (behind : Unescapes quote written body) : Unescapes quote ('\\' :: c :: written) (c :: body)
  | kept {c : Char} {written body : List Char} (hquote : c ≠ quote) (hbackslash : c ≠ '\\')
    (behind : Unescapes quote written body) :
    Unescapes quote ('\\' :: c :: written) ('\\' :: c :: body)
  | plain {c : Char} {written body : List Char} (hquote : c ≠ quote) (hbackslash : c ≠ '\\')
    (behind : Unescapes quote written body) : Unescapes quote (c :: written) (c :: body)

/-- A source within slashes, the writing before the source. -/
inductive Unslashes : List Char → List Char → Prop where
  | nil : Unslashes [] []
  | slash {written body : List Char} (behind : Unslashes written body) :
    Unslashes ('\\' :: '/' :: written) ('/' :: body)
  | kept {c : Char} {written body : List Char} (hslash : c ≠ '/')
    (behind : Unslashes written body) : Unslashes ('\\' :: c :: written) ('\\' :: c :: body)
  | plain {c : Char} {written body : List Char} (hslash : c ≠ '/') (hbackslash : c ≠ '\\')
    (behind : Unslashes written body) : Unslashes (c :: written) (c :: body)

variable {quote c : Char} {cs written body rest : List Char}

theorem ne_backslash_of_not_pair (hend : c = '\\' → cs = [] → False)
    (hpair : ∀ d tail, c = '\\' → cs = d :: tail → False) : c ≠ '\\' := by
  intro hc
  cases cs with
  | nil => exact hend hc rfl
  | cons d tail => exact hpair d tail hc rfl

-- ════════════════════════════════════════════════════════════════════════
-- Between quotes
-- ════════════════════════════════════════════════════════════════════════

theorem stringBody_cons (hc : c ≠ '\\') (quote : Char) (cs : List Char) :
    stringBody quote (c :: cs) =
      if c = quote then some ([], cs)
      else (stringBody quote cs).map fun (body, rest) => (c :: body, rest) := by
  rw [stringBody]
  · exact fun h _ => hc h
  · exact fun _ _ h _ => hc h

theorem stringBody_of_unescapes (hquote : quote ≠ '\\') (h : Unescapes quote written body)
    (rest : List Char) : stringBody quote (written ++ quote :: rest) = some (body, rest) := by
  induction h with
  | nil => rw [List.nil_append, stringBody_cons hquote, if_pos rfl]
  | pair hc _ ih =>
    rw [List.cons_append, List.cons_append, stringBody, if_pos hc, ih]
    rfl
  | kept hc hbackslash _ ih =>
    rw [List.cons_append, List.cons_append, stringBody, if_neg (not_or.2 ⟨hc, hbackslash⟩),
      stringBody_cons hbackslash, if_neg hc, ih]
    rfl
  | plain hc hbackslash _ ih =>
    rw [List.cons_append, stringBody_cons hbackslash, if_neg hc, ih]
    rfl

theorem exists_unescapes_of_stringBody (h : stringBody quote cs = some (body, rest)) :
    ∃ written, cs = written ++ quote :: rest ∧ Unescapes quote written body := by
  fun_induction stringBody quote cs generalizing body with
  | case1 | case2 => cases h
  | case3 c cs hc ih =>
    obtain ⟨⟨body', rest'⟩, hbody, heq⟩ := Option.map_eq_some_iff.1 h
    cases heq
    obtain ⟨written, rfl, hwritten⟩ := ih hbody
    exact ⟨'\\' :: c :: written, rfl, .pair hc hwritten⟩
  | case4 c cs hc ih =>
    obtain ⟨⟨body', rest'⟩, hbody, heq⟩ := Option.map_eq_some_iff.1 h
    cases heq
    obtain ⟨hquote, hbackslash⟩ := not_or.1 hc
    obtain ⟨written, hcs, hwritten⟩ := ih hbody
    -- the character behind a backslash that is kept stands for itself
    cases hwritten with
    | nil => exact absurd (List.cons.inj hcs).1 hquote
    | pair | kept => exact absurd (List.cons.inj hcs).1 hbackslash
    | plain _ _ hwritten =>
      obtain ⟨rfl, rfl⟩ := List.cons.inj hcs
      exact ⟨_, rfl, .kept hquote hbackslash hwritten⟩
  | case5 cs =>
    cases h
    exact ⟨[], rfl, .nil⟩
  | case6 c cs hend hpair hc ih =>
    obtain ⟨⟨body', rest'⟩, hbody, heq⟩ := Option.map_eq_some_iff.1 h
    cases heq
    obtain ⟨written, rfl, hwritten⟩ := ih hbody
    exact ⟨c :: written, rfl, .plain hc (ne_backslash_of_not_pair hend hpair) hwritten⟩

/-- A string literal ends at the first quote that makes no pair with a backslash. -/
theorem stringBody_eq_some_iff (hquote : quote ≠ '\\') :
    stringBody quote cs = some (body, rest) ↔
      ∃ written, cs = written ++ quote :: rest ∧ Unescapes quote written body := by
  constructor
  · exact exists_unescapes_of_stringBody
  · rintro ⟨written, rfl, h⟩
    exact stringBody_of_unescapes hquote h rest

/-- Every text can be written with a backslash before each quote and each backslash. -/
theorem unescapes_flatMap (quote : Char) (body : List Char) :
    Unescapes quote (body.flatMap fun c => if c = quote ∨ c = '\\' then ['\\', c] else [c])
      body := by
  induction body with
  | nil => exact .nil
  | cons c body ih =>
    rw [List.flatMap_cons]
    by_cases hc : c = quote ∨ c = '\\'
    · rw [if_pos hc]
      exact .pair hc ih
    · obtain ⟨hquote, hbackslash⟩ := not_or.1 hc
      rw [if_neg hc]
      exact .plain hquote hbackslash ih

theorem Unescapes.subset (h : Unescapes quote written body) : body ⊆ written := by
  induction h with
  | nil => exact List.Subset.refl _
  | pair _ _ ih => exact List.subset_cons_of_subset _ (List.cons_subset_cons _ ih)
  | kept _ _ _ ih => exact List.cons_subset_cons _ (List.cons_subset_cons _ ih)
  | plain _ _ _ ih => exact List.cons_subset_cons _ ih

-- ════════════════════════════════════════════════════════════════════════
-- Between slashes
-- ════════════════════════════════════════════════════════════════════════

theorem regexpBody_cons (hc : c ≠ '\\') (hslash : c ≠ '/') (cs : List Char) :
    regexpBody (c :: cs) = (regexpBody cs).map fun (body, rest) => (c :: body, rest) := by
  rw [regexpBody]
  · exact fun h _ => hc h
  · exact hslash
  · exact fun _ h _ => hc h
  · exact fun _ _ h _ => hc h

theorem regexpBody_pair (hslash : c ≠ '/') (cs : List Char) :
    regexpBody ('\\' :: c :: cs) =
      (regexpBody cs).map fun (body, rest) => ('\\' :: c :: body, rest) := by
  rw [regexpBody]
  exact hslash

theorem regexpBody_of_unslashes (h : Unslashes written body) (rest : List Char) :
    regexpBody (written ++ '/' :: rest) = some (body, rest) := by
  induction h with
  | nil => rfl
  | slash _ ih =>
    rw [List.cons_append, List.cons_append, regexpBody, ih]
    rfl
  | kept hslash _ ih =>
    rw [List.cons_append, List.cons_append, regexpBody_pair hslash, ih]
    rfl
  | plain hslash hbackslash _ ih =>
    rw [List.cons_append, regexpBody_cons hbackslash hslash, ih]
    rfl

theorem exists_unslashes_of_regexpBody (h : regexpBody cs = some (body, rest)) :
    ∃ written, cs = written ++ '/' :: rest ∧ Unslashes written body := by
  fun_induction regexpBody cs generalizing body with
  | case1 | case2 => cases h
  | case3 cs =>
    cases h
    exact ⟨[], rfl, .nil⟩
  | case4 cs ih =>
    obtain ⟨⟨body', rest'⟩, hbody, heq⟩ := Option.map_eq_some_iff.1 h
    cases heq
    obtain ⟨written, rfl, hwritten⟩ := ih hbody
    exact ⟨'\\' :: '/' :: written, rfl, .slash hwritten⟩
  | case5 c cs hc ih =>
    obtain ⟨⟨body', rest'⟩, hbody, heq⟩ := Option.map_eq_some_iff.1 h
    cases heq
    obtain ⟨written, rfl, hwritten⟩ := ih hbody
    exact ⟨'\\' :: c :: written, rfl, .kept hc hwritten⟩
  | case6 c cs hend hslash _ hpair ih =>
    obtain ⟨⟨body', rest'⟩, hbody, heq⟩ := Option.map_eq_some_iff.1 h
    cases heq
    obtain ⟨written, rfl, hwritten⟩ := ih hbody
    exact ⟨c :: written, rfl, .plain hslash (ne_backslash_of_not_pair hend hpair) hwritten⟩

/-- A regexp literal ends at the first slash that no backslash takes along. -/
theorem regexpBody_eq_some_iff :
    regexpBody cs = some (body, rest) ↔
      ∃ written, cs = written ++ '/' :: rest ∧ Unslashes written body := by
  constructor
  · exact exists_unslashes_of_regexpBody
  · rintro ⟨written, rfl, h⟩
    exact regexpBody_of_unslashes h rest

theorem Unslashes.subset (h : Unslashes written body) : body ⊆ written := by
  induction h with
  | nil => exact List.Subset.refl _
  | slash _ ih => exact List.subset_cons_of_subset _ (List.cons_subset_cons _ ih)
  | kept _ _ ih => exact List.cons_subset_cons _ (List.cons_subset_cons _ ih)
  | plain _ _ _ ih => exact List.cons_subset_cons _ ih

end Lexer

end ScalarExpr

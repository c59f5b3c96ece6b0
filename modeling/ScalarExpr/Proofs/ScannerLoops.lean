import Mathlib.Data.List.TakeDrop
import ScalarExpr.Proofs.LiteralBodies
import ScalarExpr.Proofs.Scanner
/-!
# The loops of a scan

Each loop that moves a cursor along the input stops where the reader stops that is given the
rest of the input, with the same outcome. Where a loop stops with success, it stops within the
input, and where it counts brackets, one is open whenever one is closed.

## Main definitions

- `Scanner.Tracks` — a scan comes to what is read of the rest of the input
- `Scanner.behindPath` — what is left behind a variable
- `Scanner.Advances` — a scan stops behind the cursor and within the input

## Main statements

- `Scanner.drop_advanceWhile`, `Scanner.drop_numberEnd`: runs of characters
- `Scanner.tracks_stringFrom`, `Scanner.tracks_regexpFrom`, `Scanner.tracks_flagsFrom`: literals
- `Scanner.exists_bracketsEnd?`, `Scanner.exists_variableEnd?`: brackets and variables
-/

namespace ScalarExpr

namespace Scanner

open Lexer

-- ════════════════════════════════════════════════════════════════════════
-- Loops and readers
-- ════════════════════════════════════════════════════════════════════════

variable {α β : Type} {input : List Char} {pos : Nat}

/-- A scan comes to what is read of the rest of the input, and leaves its cursor within the
    input and before what is left. -/
inductive Tracks (input : List Char) :
    Except LexFault (α × Nat) → Except LexFault (α × List Char) → Prop where
  | ok (a : α) {stop : Nat} (hstop : stop ≤ input.length) :
    Tracks input (.ok (a, stop)) (.ok (a, input.drop stop))
  | error (fault : LexFault) : Tracks input (.error fault) (.error fault)

theorem Tracks.map {scanned : Except LexFault (α × Nat)} {read : Except LexFault (α × List Char)}
    (h : Tracks input scanned read) (f : α → β) :
    Tracks input (scanned.map (Prod.map f id)) (read.map (Prod.map f id)) := by
  cases h with
  | ok a hstop => exact .ok (f a) hstop
  | error fault => exact .error fault

theorem drop_advanceWhile (p : Char → Bool) (hpos : pos ≤ input.length) :
    advanceWhile input p pos ≤ input.length ∧
      input.drop (advanceWhile input p pos) = (input.drop pos).dropWhile p := by
  fun_induction advanceWhile input p pos with
  | case1 pos c hc hp ih =>
    rw [drop_eq_cons_of_getElem? hc, List.dropWhile_cons_of_pos hp]
    exact ih (lt_length_of_getElem? hc)
  | case2 pos c hc hp =>
    rw [drop_eq_cons_of_getElem? hc, List.dropWhile_cons_of_neg hp]
    exact ⟨hpos, rfl⟩
  | case3 pos hnone =>
    rw [drop_eq_nil_of_getElem? hnone]
    exact ⟨hpos, rfl⟩

theorem slice?_advanceWhile (p : Char → Bool) (hpos : pos ≤ input.length) :
    slice? input pos (advanceWhile input p pos) = some ((input.drop pos).takeWhile p) := by
  obtain ⟨hle, hdrop⟩ := drop_advanceWhile p hpos
  refine slice?_of_drop_eq_append hle ?_ (le_advanceWhile input p pos)
  rw [hdrop, List.takeWhile_append_dropWhile]

theorem le_numberEnd (input : List Char) (pos : Nat) : pos ≤ numberEnd input pos := by
  fun_induction numberEnd input pos <;> omega

/-- A sign behind a mark is taken along. -/
theorem numberRun_mark_sign {c d : Char} (hmark : c = 'e' ∨ c = 'E') (hsign : d = '+' ∨ d = '-')
    (cs : List Char) : (numberRun false (c :: d :: cs)).2 = (numberRun false cs).2 := by
  rcases hmark with rfl | rfl <;> rcases hsign with rfl | rfl <;> rfl

/-- Where no sign stands behind a mark, the mark has no effect on what comes next. -/
theorem numberRun_mark {cs : List Char} (h : cs.head? ≠ some '+' ∧ cs.head? ≠ some '-') :
    numberRun true cs = numberRun false cs := by
  cases cs with
  | nil => rfl
  | cons d cs =>
    have hsign : (d = '+' || d = '-') = false := by simpa using h
    simp only [numberRun, hsign, Bool.and_false]

theorem drop_numberEnd (hpos : pos ≤ input.length) :
    numberEnd input pos ≤ input.length ∧
      input.drop (numberEnd input pos) = (numberRun false (input.drop pos)).2 := by
  fun_induction numberEnd input pos with
  | case1 pos c hc hdigit ih =>
    rw [drop_eq_cons_of_getElem? hc, numberRun, if_pos hdigit]
    exact ih (lt_length_of_getElem? hc)
  | case2 pos c hc hdigit hmark hsign ih =>
    obtain ⟨d, hd, hsign⟩ : ∃ d, input[pos + 1]? = some d ∧ (d = '+' ∨ d = '-') := by
      rcases hsign with h | h
      · exact ⟨_, h, .inl rfl⟩
      · exact ⟨_, h, .inr rfl⟩
    rw [drop_eq_cons_of_getElem? hc, drop_eq_cons_of_getElem? hd,
      numberRun_mark_sign (by simpa using hmark) hsign]
    exact ih (lt_length_of_getElem? hd)
  | case3 pos c hc hdigit hmark hsign ih =>
    rw [drop_eq_cons_of_getElem? hc, numberRun, if_neg hdigit, if_pos hmark, numberRun_mark]
    · exact ih (lt_length_of_getElem? hc)
    · rw [List.head?_drop]
      exact not_or.1 hsign
  | case4 pos c hc hdigit hmark =>
    rw [drop_eq_cons_of_getElem? hc, numberRun, if_neg hdigit, if_neg hmark]
    exact ⟨hpos, rfl⟩
  | case5 pos hnone =>
    rw [drop_eq_nil_of_getElem? hnone]
    exact ⟨hpos, rfl⟩

/-- What an optional reading comes to, a fault standing for nothing. -/
def orFault (fault : LexFault) : Option α → Except LexFault α
  | some a => .ok a
  | none => .error fault

theorem map_orFault (fault : LexFault) (f : α → β) (read : Option α) :
    (orFault fault read).map f = orFault fault (read.map f) := by
  cases read <;> rfl

theorem tracks_stringFrom (quote : Char) :
    Tracks input (stringFrom input quote pos)
      (orFault .unexpectedEndOfString (stringBody quote (input.drop pos))) := by
  fun_induction stringFrom input quote pos with
  | case1 pos hnone =>
    rw [drop_eq_nil_of_getElem? hnone]
    exact .error _
  | case2 pos hnone hc =>
    rw [drop_eq_cons_of_getElem? hc, drop_eq_nil_of_getElem? hnone]
    exact .error _
  | case3 pos d hd hpair hc ih =>
    rw [drop_eq_cons_of_getElem? hc, drop_eq_cons_of_getElem? hd, stringBody, if_pos hpair,
      ← map_orFault]
    exact ih.map _
  | case4 pos d hd hpair hc ih =>
    rw [drop_eq_cons_of_getElem? hc, drop_eq_cons_of_getElem? hd, stringBody, if_neg hpair,
      ← map_orFault, ← drop_eq_cons_of_getElem? hd]
    exact ih.map _
  | case5 pos hc hbackslash =>
    rw [drop_eq_cons_of_getElem? hc, stringBody_cons hbackslash, if_pos rfl]
    exact .ok _ (lt_length_of_getElem? hc)
  | case6 pos c hc hbackslash hquote ih =>
    rw [drop_eq_cons_of_getElem? hc, stringBody_cons hbackslash, if_neg hquote, ← map_orFault]
    exact ih.map _

theorem tracks_regexpFrom :
    Tracks input (regexpFrom input pos)
      (orFault .unexpectedEnd (regexpBody (input.drop pos))) := by
  fun_induction regexpFrom input pos with
  | case1 pos hnone =>
    rw [drop_eq_nil_of_getElem? hnone]
    exact .error _
  | case2 pos hnone hc =>
    rw [drop_eq_cons_of_getElem? hc, drop_eq_nil_of_getElem? hnone]
    exact .error _
  | case3 pos hc hd ih =>
    rw [drop_eq_cons_of_getElem? hc, drop_eq_cons_of_getElem? hd, regexpBody, ← map_orFault]
    exact ih.map _
  | case4 pos d hd hslash hc ih =>
    rw [drop_eq_cons_of_getElem? hc, drop_eq_cons_of_getElem? hd, regexpBody_pair hslash,
      ← map_orFault]
    exact ih.map _
  | case5 pos hc hbackslash =>
    rw [drop_eq_cons_of_getElem? hc, regexpBody]
    exact .ok _ (lt_length_of_getElem? hc)
  | case6 pos c hc hbackslash hslash ih =>
    rw [drop_eq_cons_of_getElem? hc, regexpBody_cons hbackslash hslash, ← map_orFault]
    exact ih.map _

theorem tracks_flagsFrom (flags : Regex.Flags) (hpos : pos ≤ input.length) :
    Tracks input (.ok (flagsFrom input flags pos)) (.ok (readFlags flags (input.drop pos))) := by
  fun_induction flagsFrom input flags pos with
  | case1 flags pos hnone =>
    have hdrop := drop_eq_nil_of_getElem? hnone
    rw [hdrop, readFlags, ← hdrop]
    exact .ok _ hpos
  | case2 flags pos c hc flags' hset ih =>
    rw [drop_eq_cons_of_getElem? hc, readFlags, hset]
    exact ih (lt_length_of_getElem? hc)
  | case3 flags pos c hc hset =>
    rw [drop_eq_cons_of_getElem? hc, readFlags, hset, ← drop_eq_cons_of_getElem? hc]
    exact .ok _ hpos

-- ════════════════════════════════════════════════════════════════════════
-- Variables
-- ════════════════════════════════════════════════════════════════════════

/-- What is left behind a variable. -/
def behindPath (depth : Nat) (quote : Option Char) (cs : List Char) :
    Except LexFault (List Char) :=
  (variablePath depth quote cs).map Prod.snd

theorem map_snd_withFirst (c : Char) (read : Except LexFault (List Char × List Char)) :
    (withFirst c read).map Prod.snd = read.map Prod.snd := by
  cases read <;> rfl

theorem behindPath_quoted {quote c : Char} (hbackslash : c ≠ '\\') (depth : Nat) (cs : List Char) :
    behindPath depth (some quote) (c :: cs) =
      behindPath depth (if c = quote then none else some quote) cs := by
  rw [behindPath, variablePath.eq_def]
  simp only [hbackslash, if_false, map_snd_withFirst]
  rfl

theorem behindPath_within (depth : Nat) (c : Char) (cs : List Char) :
    behindPath (depth + 1) none (c :: cs) =
      behindPath (if c = '[' then depth + 2 else if c = ']' then depth else depth + 1)
        (if c = '"' ∨ c = '\'' then some c else none) cs := by
  rw [behindPath, variablePath, map_snd_withFirst]
  rfl

theorem behindPath_outside (c : Char) (cs : List Char) :
    behindPath 0 none (c :: cs) =
      if c = '[' then behindPath 1 none cs
      else if isBound c then .ok (c :: cs)
      else behindPath 0 none cs := by
  rw [behindPath, variablePath]
  split
  · exact map_snd_withFirst c _
  · split
    · rfl
    · exact map_snd_withFirst c _

/-- A scan that succeeds stops behind the cursor, and within the input. -/
def Advances (input : List Char) (pos : Nat) (scanned : Except LexFault Nat) : Prop :=
  ∀ stop, scanned = .ok stop → pos < stop ∧ stop ≤ input.length

namespace Advances

variable {stop : Nat} {scanned : Except LexFault Nat}

theorem error (fault : LexFault) : Advances input pos (.error fault) := by
  rintro _ ⟨⟩

theorem ok (hlt : pos < stop) (hle : stop ≤ input.length) : Advances input pos (.ok stop) := by
  rintro _ ⟨⟩
  exact ⟨hlt, hle⟩

theorem mono {start : Nat} (h : Advances input pos scanned) (hle : start ≤ pos) :
    Advances input start scanned := fun stop hstop =>
  ⟨Nat.lt_of_le_of_lt hle (h stop hstop).1, (h stop hstop).2⟩

end Advances

/-- What is quoted within brackets ends where its quote stands, however many are open. -/
theorem quotedEnd_eq (input : List Char) (quote : Char) (depth pos : Nat) :
    behindPath depth (some quote) (input.drop pos) =
        (quotedEnd input quote pos >>= fun stop => behindPath depth none (input.drop stop)) ∧
      Advances input pos (quotedEnd input quote pos) := by
  fun_induction quotedEnd input quote pos with
  | case1 pos hnone =>
    rw [drop_eq_nil_of_getElem? hnone]
    exact ⟨rfl, .error _⟩
  | case2 pos hc ih =>
    refine ⟨?_, ih.2.mono (Nat.le_add_right pos 2)⟩
    rw [← ih.1, drop_eq_cons_of_getElem? hc]
    cases hd : input[pos + 1]? with
    | none =>
      -- the cursor stands behind the end, where nothing is left either
      have hbehind : input[pos + 2]? = none :=
        List.getElem?_eq_none (Nat.le_succ_of_le (List.getElem?_eq_none_iff.1 hd))
      rw [drop_eq_nil_of_getElem? hd, drop_eq_nil_of_getElem? hbehind]
      rfl
    | some d =>
      rw [drop_eq_cons_of_getElem? hd, behindPath, variablePath, if_pos rfl, map_snd_withFirst,
        map_snd_withFirst]
      rfl
  | case3 pos hc hbackslash =>
    refine ⟨?_, .ok (Nat.lt_succ_self pos) (lt_length_of_getElem? hc)⟩
    rw [drop_eq_cons_of_getElem? hc, behindPath_quoted hbackslash, if_pos rfl]
    rfl
  | case4 pos c hc hbackslash hquote ih =>
    refine ⟨?_, ih.2.mono (Nat.le_succ pos)⟩
    rw [← ih.1, drop_eq_cons_of_getElem? hc, behindPath_quoted hbackslash, if_neg hquote]

/-- What is passed of open brackets leaves them closed; at each bracket that closes one, one is
    open. -/
theorem exists_bracketsEnd? (input : List Char) (depth pos : Nat) :
    ∃ scanned, bracketsEnd? input (depth + 1) pos = some scanned ∧
      behindPath (depth + 1) none (input.drop pos) =
        (scanned >>= fun stop => behindPath 0 none (input.drop stop)) ∧
      Advances input pos scanned := by
  unfold bracketsEnd?
  split
  · rename_i hnone
    rw [drop_eq_nil_of_getElem? hnone]
    exact ⟨_, rfl, rfl, .error _⟩
  · rename_i c hc
    have hlt := lt_length_of_getElem? hc
    rw [drop_eq_cons_of_getElem? hc, behindPath_within]
    by_cases hopen : c = '['
    · obtain ⟨scanned, hscanned, heq, hadvances⟩ := exists_bracketsEnd? input (depth + 1) (pos + 1)
      rw [if_pos hopen, if_pos hopen, if_neg (by simp [hopen])]
      exact ⟨scanned, hscanned, heq, hadvances.mono (Nat.le_succ pos)⟩
    rw [if_neg hopen, if_neg hopen]
    by_cases hclose : c = ']'
    · rw [if_pos hclose, if_pos hclose, if_neg (by simp [hclose]), Nat.ppred_succ,
        Option.bind_eq_bind, Option.bind_some]
      cases depth with
      | zero => exact ⟨_, if_pos rfl, rfl, .ok (Nat.lt_succ_self pos) hlt⟩
      | succ depth =>
        obtain ⟨scanned, hscanned, heq, hadvances⟩ := exists_bracketsEnd? input depth (pos + 1)
        rw [if_neg (Nat.succ_ne_zero depth)]
        exact ⟨scanned, hscanned, heq, hadvances.mono (Nat.le_succ pos)⟩
    rw [if_neg hclose, if_neg hclose]
    by_cases hquote : c = '"' ∨ c = '\''
    · rw [if_pos hquote, if_pos hquote]
      obtain ⟨heq, hquoted⟩ := quotedEnd_eq input c (depth + 1) (pos + 1)
      rw [heq]
      cases hstop : quotedEnd input c (pos + 1) with
      | error fault => exact ⟨_, rfl, rfl, .error fault⟩
      | ok stop =>
        have hforward : pos < stop := Nat.lt_of_succ_lt (hquoted stop hstop).1
        obtain ⟨scanned, hscanned, heq, hadvances⟩ := exists_bracketsEnd? input depth stop
        exact ⟨scanned, (if_pos hforward).trans hscanned, heq,
          hadvances.mono (Nat.le_of_lt hforward)⟩
    · obtain ⟨scanned, hscanned, heq, hadvances⟩ := exists_bracketsEnd? input depth (pos + 1)
      rw [if_neg hquote, if_neg hquote]
      exact ⟨scanned, hscanned, heq, hadvances.mono (Nat.le_succ pos)⟩
termination_by input.length - pos

theorem behindPath_dropWhile (cs : List Char) :
    behindPath 0 none (cs.dropWhile fun c => !isBound c) = behindPath 0 none cs := by
  induction cs with
  | nil => rfl
  | cons c cs ih =>
    by_cases hbound : isBound c
    · rw [List.dropWhile_cons_of_neg (by simp [hbound])]
    · have hbracket : c ≠ '[' := fun heq => hbound (heq ▸ rfl)
      rw [List.dropWhile_cons_of_pos (by simp [hbound]), ih, behindPath_outside, if_neg hbracket,
        if_neg hbound]

/-- Where the characters of a name end and no bracket is opened, the variable ends. -/
theorem behindPath_of_ended {cs : List Char} (hbracket : cs.head? ≠ some '[')
    (hbound : ∀ c, cs.head? = some c → isBound c) : behindPath 0 none cs = .ok cs := by
  cases cs with
  | nil => rfl
  | cons c cs =>
    rw [behindPath_outside, if_neg fun heq => hbracket (congrArg some heq), if_pos (hbound c rfl)]

theorem bracketsEnd?_of_bracket (hbracket : input[pos]? = some '[') :
    bracketsEnd? input 0 pos = bracketsEnd? input 1 (pos + 1) := by
  rw [bracketsEnd?]
  split
  · rename_i hnone
    rw [hbracket] at hnone
    cases hnone
  · rename_i c hc
    rw [hbracket] at hc
    cases hc
    exact if_pos rfl

/-- A variable ends where its last name or bracket does. -/
theorem exists_variableEnd? (input : List Char) (pos : Nat) (hpos : pos ≤ input.length) :
    ∃ scanned, variableEnd? input pos = some scanned ∧
      behindPath 0 none (input.drop pos) = scanned.map (List.drop · input) ∧
      ∀ stop, scanned = .ok stop → pos ≤ stop ∧ stop ≤ input.length := by
  have hname := le_advanceWhile input (fun c => !isBound c) pos
  obtain ⟨hle, hdrop⟩ := drop_advanceWhile (fun c => !isBound c) hpos
  rw [← behindPath_dropWhile, ← hdrop]
  unfold variableEnd?
  generalize advanceWhile input (fun c => !isBound c) pos = stop at hname hle hdrop ⊢
  dsimp only
  split
  · rename_i hbracket
    obtain ⟨scanned, hscanned, heq, hadvances⟩ := exists_bracketsEnd? input 0 (stop + 1)
    rw [bracketsEnd?_of_bracket hbracket, hscanned, drop_eq_cons_of_getElem? hbracket,
      behindPath_outside, if_pos rfl, heq]
    cases scanned with
    | error fault => exact ⟨_, rfl, rfl, fun _ h => nomatch h⟩
    | ok behind =>
      obtain ⟨hlt, hbehind⟩ := hadvances behind rfl
      obtain ⟨scanned, hscanned, heq, hbounds⟩ := exists_variableEnd? input behind hbehind
      refine ⟨scanned, ?_, heq, fun last hlast => ?_⟩
      · exact (if_pos (Nat.lt_of_succ_lt hlt)).trans hscanned
      · obtain ⟨hmoved, hlast⟩ := hbounds last hlast
        exact ⟨by omega, hlast⟩
  · rename_i hbracket
    refine ⟨_, rfl, behindPath_of_ended ?_ fun c hc => ?_, ?_⟩
    · rwa [List.head?_drop]
    · have hnot := List.head?_dropWhile_not (fun c => !isBound c) (input.drop pos)
      rw [← hdrop, hc] at hnot
      simpa using hnot
    · rintro _ ⟨⟩
      exact ⟨hname, hle⟩
termination_by input.length - pos
decreasing_by
  have := lt_length_of_getElem? ‹_›
  omega

end Scanner

end ScalarExpr

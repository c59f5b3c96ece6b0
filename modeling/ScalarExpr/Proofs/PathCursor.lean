import Mathlib.Data.Nat.PSub
import ScalarExpr.Document.Path
/-!
# Reading paths with a cursor

A path is read with a cursor that counts bytes. What is sliced has to begin and end at the
boundary of a character within the path, and the second boundary may not stand before the
first; the cursor has to have moved forward when a step is read. A scan that breaks any of
this does not come to anything. No scan does, and each comes to the segments, or the error,
that the readers without positions come to.

## Main definitions

- `PathScanner.splitAt?` — the text before and behind a boundary
- `PathScanner.slice?`, `PathScanner.peek?` — the text between two boundaries, and the character
  behind one
- `PathScanner.parse?` — reads a path
- `PathScanner.HasSuffix` — what stands behind a boundary
- `PathScanner.Follows` — a scan comes to what is read

## Main statements

- `PathScanner.isSome_splitAt?_iff`: where a text can be split
- `PathScanner.HasSuffix.append`, `PathScanner.HasSuffix.slice?`: a cursor that is moved past
  whole characters stands at a boundary, and what it has passed can be sliced
- `PathScanner.parse?_eq`: what a scan of a path comes to
-/

namespace ScalarExpr

namespace PathScanner

open ScalarExpr.Path

-- ════════════════════════════════════════════════════════════════════════
-- Boundaries
-- ════════════════════════════════════════════════════════════════════════

/-- The text before and behind so many bytes, if a character ends or begins there. -/
def splitAt? : List Char → Nat → Option (List Char × List Char)
  | cs, 0 => some ([], cs)
  | [], _ + 1 => none
  | c :: cs, n + 1 => do
    let others ← Nat.psub (n + 1) c.utf8Size
    let (front, behind) ← splitAt? cs others
    some (c :: front, behind)

/-- The text from `start` up to `stop`, if these are boundaries and in order. -/
def slice? (input : List Char) (start stop : Nat) : Option (List Char) := do
  let (_, rest) ← splitAt? input start
  let size ← Nat.psub stop start
  let (part, _) ← splitAt? rest size
  some part

/-- The character behind a boundary, unless it is the end. -/
def peek? (input : List Char) (pos : Nat) : Option (Option Char) := do
  let (_, rest) ← splitAt? input pos
  some rest.head?

theorem eq_append_of_splitAt? {input front rest : List Char} {pos : Nat}
    (h : splitAt? input pos = some (front, rest)) :
    input = front ++ rest ∧ pos = Text.byteLength front := by
  fun_induction splitAt? input pos generalizing front with
  | case1 cs =>
    cases h
    exact ⟨rfl, rfl⟩
  | case2 => cases h
  | case3 c cs n ih =>
    obtain ⟨others, hothers, h⟩ := Option.bind_eq_some_iff.1 h
    obtain ⟨⟨front', rest'⟩, hsplit, h⟩ := Option.bind_eq_some_iff.1 h
    cases h
    obtain ⟨rfl, rfl⟩ := ih _ hsplit
    have hsize := Nat.psub_eq_some.1 hothers
    exact ⟨rfl, hsize.symm.trans (Nat.add_comm _ _)⟩

theorem splitAt?_append (front rest : List Char) :
    splitAt? (front ++ rest) (Text.byteLength front) = some (front, rest) := by
  induction front with
  | nil => rw [List.nil_append, Text.byteLength_nil, splitAt?]
  | cons c front ih =>
    obtain ⟨n, hn⟩ : ∃ n, Text.byteLength (c :: front) = n + 1 :=
      Nat.exists_eq_succ_of_ne_zero (Nat.ne_of_gt (Nat.add_pos_left c.utf8Size_pos _))
    have hothers : Nat.psub (n + 1) c.utf8Size = some (Text.byteLength front) :=
      Nat.psub_eq_some.2 (by rw [← hn, Text.byteLength_cons, Nat.add_comm])
    rw [hn, List.cons_append, splitAt?, hothers, Option.bind_eq_bind, Option.bind_some, ih]
    rfl

/-- A character stands within the input. -/
theorem lt_byteLength_of_peek? {input : List Char} {pos : Nat} {c : Char}
    (h : peek? input pos = some (some c)) : pos < Text.byteLength input := by
  obtain ⟨⟨front, rest⟩, hsplit, hhead⟩ := Option.bind_eq_some_iff.1 h
  obtain ⟨rfl, rfl⟩ := eq_append_of_splitAt? hsplit
  cases rest with
  | nil => cases hhead
  | cons d rest =>
    have := d.utf8Size_pos
    rw [Text.byteLength_append, Text.byteLength_cons]
    omega

-- ════════════════════════════════════════════════════════════════════════
-- Scans
-- ════════════════════════════════════════════════════════════════════════

/-- Move the cursor past the characters that satisfy a condition. -/
def advanceWhile? (input : List Char) (p : Char → Bool) (pos : Nat) : Option Nat :=
  match _h : peek? input pos with
  | none => none
  | some none => some pos
  | some (some c) => if p c then advanceWhile? input p (pos + c.utf8Size) else some pos
termination_by Text.byteLength input - pos
decreasing_by
  have := lt_byteLength_of_peek? ‹_›
  have := c.utf8Size_pos
  omega

/-- A name behind a point. -/
def name? (input : List Char) (start : Nat) : Option (Except PathError (Segment × Nat)) := do
  let stop ← advanceWhile? input isNameChar start
  if stop = start then some (.error (.emptyName start))
  else
    let name ← slice? input start stop
    some (.ok (.key (String.ofList name), stop))

/-- A quoted name, its opening quote already passed. -/
def quoted? (input : List Char) (quote : Char) (pos : Nat) :
    Option (Except PathError (List Char × Nat)) :=
  match _h : peek? input pos with
  | none => none
  | some none => some (.error .unexpectedEnd)
  | some (some c) =>
    if c = '\\' then
      match peek? input (pos + c.utf8Size) with
      | none => none
      | some none => some (.error .unexpectedEnd)
      | some (some d) =>
        (quoted? input quote (pos + c.utf8Size + d.utf8Size)).map
          (Except.map (Prod.map (d :: ·) id))
    else if c = quote then some (.ok ([], pos + c.utf8Size))
    else (quoted? input quote (pos + c.utf8Size)).map (Except.map (Prod.map (c :: ·) id))
termination_by Text.byteLength input - pos
decreasing_by all_goals
  have := lt_byteLength_of_peek? ‹_›
  have := c.utf8Size_pos
  omega

/-- What brackets hold, the opening one already passed. -/
def content? (input : List Char) (pos : Nat) : Option (Except PathError (Segment × Nat)) := do
  match ← peek? input pos with
  | none => some (.error .unexpectedEnd)
  | some c =>
    if c = '\'' ∨ c = '"' then
      let name ← quoted? input c (pos + c.utf8Size)
      some (name.map (Prod.map (fun name => .key (String.ofList name)) id))
    else if c.isDigit then
      let stop ← advanceWhile? input Char.isDigit pos
      let digits ← slice? input pos stop
      some (.ok (digitsSegment digits, stop))
    else some (.error (.unexpectedChar c pos))

/-- What brackets hold, and the closing one. -/
def bracket? (input : List Char) (pos : Nat) : Option (Except PathError (Segment × Nat)) := do
  match ← content? input pos with
  | .error e => some (.error e)
  | .ok (segment, stop) =>
    match ← peek? input stop with
    | none => some (.error .unexpectedEnd)
    | some c =>
      if c = ']' then some (.ok (segment, stop + c.utf8Size))
      else some (.error (.unexpectedChar c stop))

/-- The step that begins with `c` at the cursor: a name, or what brackets hold. -/
def step? (input : List Char) (c : Char) (pos : Nat) :
    Option (Except PathError (Segment × Nat)) :=
  if c = '.' then name? input (pos + c.utf8Size)
  else if c = '[' then bracket? input (pos + c.utf8Size)
  else some (.error (.unexpectedChar c pos))

/-- The steps from the cursor on. -/
def segments? (input : List Char) (pos : Nat) : Option (Except PathError (List Segment)) :=
  match _h : peek? input pos with
  | none => none
  | some none => some (.ok [])
  | some (some c) => do
    match ← step? input c pos with
    | .error e => some (.error e)
    | .ok (segment, stop) =>
      if pos < stop then (segments? input stop).map (Except.map (segment :: ·)) else none
termination_by Text.byteLength input - pos
decreasing_by
  have := lt_byteLength_of_peek? ‹_›
  omega

/-- The segments of a path, or its error. -/
def parse? (path : String) : Option (Except PathError (List Segment)) := do
  match ← peek? path.toList 0 with
  | some c =>
    if c = '$' ∨ c = '@' then segments? path.toList c.utf8Size
    else some (.error (.expectedRoot path))
  | none => some (.error (.expectedRoot path))

-- ════════════════════════════════════════════════════════════════════════
-- What stands behind a boundary
-- ════════════════════════════════════════════════════════════════════════

variable {α β : Type} {input cs front rest : List Char} {pos : Nat} {c : Char}

/-- The position is a boundary, and the text stands behind it. -/
def HasSuffix (input : List Char) (pos : Nat) (cs : List Char) : Prop :=
  ∃ front, input = front ++ cs ∧ pos = Text.byteLength front

/-- A text is split at its boundaries and nowhere else. -/
theorem isSome_splitAt?_iff : (splitAt? input pos).isSome ↔ ∃ cs, HasSuffix input pos cs := by
  rw [Option.isSome_iff_exists]
  constructor
  · rintro ⟨⟨front, cs⟩, hsplit⟩
    exact ⟨cs, front, eq_append_of_splitAt? hsplit⟩
  · rintro ⟨cs, front, rfl, rfl⟩
    exact ⟨(front, cs), splitAt?_append front cs⟩

namespace HasSuffix

theorem splitAt? (h : HasSuffix input pos cs) :
    ∃ front, PathScanner.splitAt? input pos = some (front, cs) := by
  obtain ⟨front, rfl, rfl⟩ := h
  exact ⟨front, splitAt?_append front cs⟩

theorem peek? (h : HasSuffix input pos cs) : PathScanner.peek? input pos = some cs.head? := by
  obtain ⟨front, hsplit⟩ := h.splitAt?
  rw [PathScanner.peek?, hsplit]
  rfl

theorem append (front : List Char) (h : HasSuffix input pos (front ++ cs)) :
    HasSuffix input (pos + Text.byteLength front) cs := by
  obtain ⟨before, rfl, rfl⟩ := h
  exact ⟨before ++ front, (List.append_assoc _ _ _).symm, (Text.byteLength_append _ _).symm⟩

theorem tail (h : HasSuffix input pos (c :: cs)) : HasSuffix input (pos + c.utf8Size) cs := by
  have happend := append [c] h
  rwa [Text.byteLength_cons, Text.byteLength_nil, Nat.add_zero] at happend

theorem slice? (h : HasSuffix input pos (front ++ cs)) :
    PathScanner.slice? input pos (pos + Text.byteLength front) = some front := by
  obtain ⟨before, hsplit⟩ := h.splitAt?
  have hsize : Nat.psub (pos + Text.byteLength front) pos = some (Text.byteLength front) :=
    Nat.psub_eq_some.2 (Nat.add_comm _ _)
  rw [PathScanner.slice?, hsplit, Option.bind_eq_bind, Option.bind_some, hsize]
  simp only [Option.bind_eq_bind, Option.bind_some, splitAt?_append]

theorem byteLength_eq (h : HasSuffix input pos cs) :
    Text.byteLength input = pos + Text.byteLength cs := by
  obtain ⟨before, rfl, rfl⟩ := h
  exact Text.byteLength_append _ _

/-- What is left behind two boundaries tells how far apart they are. -/
theorem pos_eq (h : HasSuffix input pos cs) {stop : Nat} (hrest : HasSuffix input stop rest)
    (hsuffix : rest <:+ cs) : stop = pos + (Text.byteLength cs - Text.byteLength rest) := by
  have hwhole := h.byteLength_eq.symm.trans hrest.byteLength_eq
  obtain ⟨taken, rfl⟩ := hsuffix
  rw [Text.byteLength_append] at hwhole ⊢
  omega

end HasSuffix

/-- A scan comes to what is read, and leaves its cursor before what is left. -/
inductive Follows (input : List Char) :
    Except PathError (α × Nat) → Except PathError (α × List Char) → Prop where
  | ok (a : α) {stop : Nat} {rest : List Char} (h : HasSuffix input stop rest) :
    Follows input (.ok (a, stop)) (.ok (a, rest))
  | error (e : PathError) : Follows input (.error e) (.error e)

theorem Follows.map {scanned : Except PathError (α × Nat)} {read : Except PathError (α × List Char)}
    (h : Follows input scanned read) (f : α → β) :
    Follows input (scanned.map (Prod.map f id)) (read.map (Prod.map f id)) := by
  cases h with
  | ok a h => exact .ok (f a) h
  | error e => exact .error e

-- ════════════════════════════════════════════════════════════════════════
-- Each scan
-- ════════════════════════════════════════════════════════════════════════

theorem advanceWhile?_nil (p : Char → Bool) (h : HasSuffix input pos []) :
    advanceWhile? input p pos = some pos := by
  have hpeek := h.peek?
  unfold advanceWhile?
  split <;> simp_all

theorem advanceWhile?_cons (p : Char → Bool) (h : HasSuffix input pos (c :: cs)) :
    advanceWhile? input p pos =
      if p c then advanceWhile? input p (pos + c.utf8Size) else some pos := by
  have hpeek := h.peek?
  conv =>
    lhs
    unfold advanceWhile?
  split <;> simp_all

theorem advanceWhile?_eq (p : Char → Bool) (h : HasSuffix input pos cs) :
    advanceWhile? input p pos = some (pos + Text.byteLength (cs.takeWhile p)) := by
  induction cs generalizing pos with
  | nil => exact advanceWhile?_nil p h
  | cons c cs ih =>
    rw [advanceWhile?_cons p h]
    by_cases hp : p c
    · rw [if_pos hp, List.takeWhile_cons_of_pos hp, ih h.tail, Text.byteLength_cons, Nat.add_assoc]
    · rw [if_neg hp, List.takeWhile_cons_of_neg hp]
      rfl

theorem takeWhile_suffix (p : Char → Bool) (h : HasSuffix input pos cs) :
    HasSuffix input pos (cs.takeWhile p ++ cs.dropWhile p) := by
  rwa [List.takeWhile_append_dropWhile]

theorem exists_name? (h : HasSuffix input pos cs) :
    ∃ scanned, name? input pos = some scanned ∧
      Follows input scanned (if cs.takeWhile isNameChar = [] then .error (.emptyName pos)
        else .ok (.key (String.ofList (cs.takeWhile isNameChar)), cs.dropWhile isNameChar)) := by
  have hsplit := takeWhile_suffix isNameChar h
  rw [name?, advanceWhile?_eq isNameChar h, Option.bind_eq_bind, Option.bind_some]
  generalize cs.takeWhile isNameChar = name at hsplit ⊢
  cases name with
  | nil => exact ⟨_, if_pos rfl, .error _⟩
  | cons c name =>
    have hmoved : ¬ pos + Text.byteLength (c :: name) = pos := by
      have := c.utf8Size_pos
      rw [Text.byteLength_cons]
      omega
    rw [if_neg hmoved, if_neg (List.cons_ne_nil c name), hsplit.slice?]
    exact ⟨_, rfl, .ok _ (hsplit.append _)⟩

/-- What a quoted name comes to, the end of the path standing for none. -/
def orEnd : Option (List Char × List Char) → Except PathError (List Char × List Char)
  | some read => .ok read
  | none => .error .unexpectedEnd

theorem map_orEnd (f : List Char → List Char) (read : Option (List Char × List Char)) :
    (orEnd read).map (Prod.map f id) = orEnd (read.map fun (name, rest) => (f name, rest)) := by
  cases read <;> rfl

theorem quoted?_nil (quote : Char) (h : HasSuffix input pos []) :
    quoted? input quote pos = some (.error .unexpectedEnd) := by
  have hpeek := h.peek?
  unfold quoted?
  split <;> simp_all

theorem quoted?_cons (quote : Char) (h : HasSuffix input pos (c :: cs)) :
    quoted? input quote pos =
      if c = '\\' then
        match cs.head? with
        | none => some (.error .unexpectedEnd)
        | some d =>
          (quoted? input quote (pos + c.utf8Size + d.utf8Size)).map
            (Except.map (Prod.map (d :: ·) id))
      else if c = quote then some (.ok ([], pos + c.utf8Size))
      else (quoted? input quote (pos + c.utf8Size)).map (Except.map (Prod.map (c :: ·) id)) := by
  have hpeek := h.peek?
  conv =>
    lhs
    unfold quoted?
  split <;> rename_i hscan <;> rw [hpeek] at hscan <;> cases hscan
  rw [h.tail.peek?]
  cases cs <;> rfl

theorem exists_quoted? (quote : Char) (h : HasSuffix input pos cs) :
    ∃ scanned, quoted? input quote pos = some scanned ∧
      Follows input scanned (orEnd (quotedName quote cs)) := by
  fun_induction quotedName quote cs generalizing pos with
  | case1 => exact ⟨_, quoted?_nil quote h, .error _⟩
  | case2 =>
    rw [quoted?_cons quote h, if_pos rfl]
    exact ⟨_, rfl, .error _⟩
  | case3 d cs ih =>
    obtain ⟨scanned, hscanned, hfollows⟩ := ih h.tail.tail
    simp only [quoted?_cons quote h, if_pos, List.head?_cons, hscanned, ← map_orEnd]
    exact ⟨_, rfl, hfollows.map _⟩
  | case4 cs hbackslash =>
    rw [quoted?_cons quote h, if_neg hbackslash, if_pos rfl]
    exact ⟨_, rfl, .ok _ h.tail⟩
  | case5 c cs hbackslash hquote ih =>
    obtain ⟨scanned, hscanned, hfollows⟩ := ih h.tail
    rw [quoted?_cons quote h, if_neg hbackslash, if_neg hquote, hscanned, ← map_orEnd]
    exact ⟨_, rfl, hfollows.map _⟩

theorem exists_content? (h : HasSuffix input pos cs) :
    ∃ scanned, content? input pos = some scanned ∧
      Follows input scanned (bracketContent pos cs) := by
  rw [content?, h.peek?]
  cases cs with
  | nil => exact ⟨_, rfl, .error _⟩
  | cons c cs =>
    simp only [Option.bind_eq_bind, Option.bind_some, List.head?_cons, bracketContent]
    split
    · obtain ⟨scanned, hscanned, hfollows⟩ := exists_quoted? c h.tail
      rw [hscanned]
      cases hread : quotedName c cs with
      | none =>
        rw [hread] at hfollows
        cases hfollows
        exact ⟨_, rfl, .error _⟩
      | some read =>
        rw [hread] at hfollows
        cases hfollows with
        | ok name hsuffix => exact ⟨_, rfl, .ok _ hsuffix⟩
    split
    · rename_i hdigit
      have hsplit := takeWhile_suffix Char.isDigit h
      rw [advanceWhile?_eq Char.isDigit h, Option.bind_some, hsplit.slice?, Option.bind_some,
        ← List.takeWhile_cons_of_pos hdigit, ← List.dropWhile_cons_of_pos hdigit]
      exact ⟨_, rfl, .ok _ (hsplit.append _)⟩
    · exact ⟨_, rfl, .error _⟩

theorem exists_bracket? (h : HasSuffix input pos cs) :
    ∃ scanned, bracket? input pos = some scanned ∧ Follows input scanned (bracketed pos cs) := by
  obtain ⟨scanned, hscanned, hfollows⟩ := exists_content? h
  rw [bracket?, hscanned, bracketed]
  cases hcontent : bracketContent pos cs with
  | error e =>
    rw [hcontent] at hfollows
    cases hfollows
    exact ⟨_, rfl, .error _⟩
  | ok read =>
    rw [hcontent] at hfollows
    cases hfollows with
    | @ok segment stop rest hsuffix =>
      simp only [Option.bind_eq_bind, Option.bind_some, hsuffix.peek?]
      cases rest with
      | nil => exact ⟨_, rfl, .error _⟩
      | cons c rest =>
        dsimp only [List.head?_cons]
        rw [← h.pos_eq hsuffix (bracketContent_suffix hcontent)]
        split
        · exact ⟨_, rfl, .ok _ hsuffix.tail⟩
        · exact ⟨_, rfl, .error _⟩

theorem segments?_nil (h : HasSuffix input pos []) : segments? input pos = some (.ok []) := by
  have hpeek := h.peek?
  unfold segments?
  split <;> simp_all

theorem segments?_of_step {segment : Segment} {stop : Nat} (h : HasSuffix input pos (c :: cs))
    (hstep : step? input c pos = some (.ok (segment, stop))) (hmoved : pos < stop) :
    segments? input pos = (segments? input stop).map (Except.map (segment :: ·)) := by
  have hpeek := h.peek?
  conv =>
    lhs
    unfold segments?
  split <;> simp_all

theorem segments?_of_error {e : PathError} (h : HasSuffix input pos (c :: cs))
    (hstep : step? input c pos = some (.error e)) : segments? input pos = some (.error e) := by
  have hpeek := h.peek?
  unfold segments?
  split <;> simp_all

theorem segments?_of_name (h : HasSuffix input pos ('.' :: cs))
    (hname : cs.takeWhile isNameChar ≠ []) :
    HasSuffix input (pos + 1 + Text.byteLength (cs.takeWhile isNameChar))
        (cs.dropWhile isNameChar) ∧
      segments? input pos =
        (segments? input (pos + 1 + Text.byteLength (cs.takeWhile isNameChar))).map
          (Except.map (.key (String.ofList (cs.takeWhile isNameChar)) :: ·)) := by
  have hbehind := (takeWhile_suffix isNameChar h.tail).append _
  obtain ⟨scanned, hscanned, hfollows⟩ := exists_name? h.tail
  rw [if_neg hname] at hfollows
  cases hfollows with
  | @ok _ stop _ hsuffix =>
    have hstop : stop = pos + 1 + Text.byteLength (cs.takeWhile isNameChar) :=
      Nat.add_right_cancel (hsuffix.byteLength_eq.symm.trans hbehind.byteLength_eq)
    subst hstop
    exact ⟨hsuffix, segments?_of_step h hscanned (by omega)⟩

theorem segments?_of_bracket {segment : Segment} (h : HasSuffix input pos ('[' :: cs))
    (hread : bracketed (pos + 1) cs = .ok (segment, rest)) :
    HasSuffix input (pos + 1 + (Text.byteLength cs - Text.byteLength rest)) rest ∧
      segments? input pos =
        (segments? input (pos + 1 + (Text.byteLength cs - Text.byteLength rest))).map
          (Except.map (segment :: ·)) := by
  obtain ⟨scanned, hscanned, hfollows⟩ := exists_bracket? h.tail
  have hposition : pos + '['.utf8Size = pos + 1 := rfl
  rw [hposition, hread] at hfollows
  cases hfollows with
  | ok _ hsuffix =>
    have hstop := h.tail.pos_eq hsuffix (bracketed_suffix hread)
    rw [hposition] at hstop
    subst hstop
    exact ⟨hsuffix, segments?_of_step h hscanned (by omega)⟩

theorem segments?_eq (h : HasSuffix input pos cs) :
    segments? input pos = some (segments pos cs) := by
  fun_induction segments pos cs with
  | case1 => exact segments?_nil h
  | case2 pos cs name hname =>
    obtain ⟨scanned, hscanned, hfollows⟩ := exists_name? h.tail
    rw [if_pos hname] at hfollows
    cases hfollows
    exact segments?_of_error h hscanned
  | case3 pos cs name hname _ segments hsegments ih | case4 pos cs name hname _ e hsegments ih =>
    obtain ⟨hbehind, hstep⟩ := segments?_of_name h hname
    rw [hstep, ih hbehind, hsegments]
    rfl
  | case5 pos cs e hread =>
    obtain ⟨scanned, hscanned, hfollows⟩ := exists_bracket? h.tail
    have hposition : pos + '['.utf8Size = pos + 1 := rfl
    rw [hposition, hread] at hfollows
    cases hfollows
    exact segments?_of_error h hscanned
  | case6 pos cs segment rest hread _ taken segments hsegments ih
  | case7 pos cs segment rest hread _ taken e hsegments ih =>
    obtain ⟨hbehind, hstep⟩ := segments?_of_bracket h hread
    rw [hstep, ih hbehind, hsegments]
    rfl
  | case8 pos c cs hpoint hbracket =>
    have hstep : step? input c pos = some (.error (.unexpectedChar c pos)) := by
      rw [step?, if_neg hpoint, if_neg hbracket]
    exact segments?_of_error h hstep

/-- A scan of a path comes to its segments, or its error. -/
theorem parse?_eq (path : String) : parse? path = some (Path.parse path) := by
  have h : HasSuffix path.toList 0 path.toList := ⟨[], rfl, rfl⟩
  rw [parse?, h.peek?, Path.parse]
  generalize path.toList = cs at h ⊢
  cases cs with
  | nil => rfl
  | cons c cs =>
    simp only [Option.bind_eq_bind, Option.bind_some, List.head?_cons]
    split
    · rename_i hroot
      rcases hroot with rfl | rfl <;> exact segments?_eq h.tail
    · rename_i hroot
      obtain ⟨hdollar, hat⟩ := not_or.1 hroot
      split
      · exact absurd (List.cons.inj ‹_›).1 hdollar
      · exact absurd (List.cons.inj ‹_›).1 hat
      · rfl

end PathScanner

end ScalarExpr

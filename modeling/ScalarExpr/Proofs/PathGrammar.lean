import ScalarExpr.Document.Path
/-!
# The grammar of paths

A path is a root with items behind it: a point and a name, or brackets that hold digits
or a quoted name. A name behind a point may hold anything but points and opening brackets,
and a quoted name anything at all, since a backslash takes the character after it along.
The reader of paths accepts the texts of this grammar and no others, and the positions in
its errors are positions of characters.

## Main definitions

- `Path.Quoted` — a quoted name and its writing
- `Path.Item`, `Path.Items` — the items of a path and their segments
- `PathError.PointsInto` — what an error says about the place where it is

## Main statements

- `Path.quotedName_eq_some_iff`: a quoted name ends at the first quote of its own
- `Path.segments_eq_ok_iff`: the segments that are read are those of the items
- `Path.pointsInto_of_segments`: where the errors are
- `Path.parse_eq_ok_iff`: the paths, their segments and their errors
-/

namespace ScalarExpr

namespace Path

/-- A name within quotes, the writing before the name. A backslash and a character stand
    for the character, any other character but the quote stands for itself. -/
inductive Quoted (quote : Char) : List Char → List Char → Prop where
  | nil : Quoted quote [] []
  | plain {c : Char} {written name : List Char} (hquote : c ≠ quote) (hbackslash : c ≠ '\\')
    (behind : Quoted quote written name) : Quoted quote (c :: written) (c :: name)
  | pair (c : Char) {written name : List Char} (behind : Quoted quote written name) :
    Quoted quote ('\\' :: c :: written) (c :: name)

/-- An item of a path, its segment, and what may follow it. A name behind a point goes on
    as long as it can. Digits are an index if it fits 64 bits, or else a name. -/
inductive Item : List Char → Segment → List Char → Prop where
  | member {name rest : List Char} (hne : name ≠ []) (hname : ∀ c ∈ name, c ≠ '.' ∧ c ≠ '[')
    (hmaximal : ∀ c ∈ rest.head?, c = '.' ∨ c = '[') :
    Item ('.' :: name) (.key (String.ofList name)) rest
  | index {digits rest : List Char} (hne : digits ≠ []) (hdigits : ∀ c ∈ digits, c.isDigit)
    (hfits : Nat.ofDigitChars 10 digits 0 < UInt64.size) :
    Item ('[' :: (digits ++ [']'])) (.index (Nat.ofDigitChars 10 digits 0)) rest
  | largeIndex {digits rest : List Char} (hne : digits ≠ []) (hdigits : ∀ c ∈ digits, c.isDigit)
    (hlarge : UInt64.size ≤ Nat.ofDigitChars 10 digits 0) :
    Item ('[' :: (digits ++ [']'])) (.key (String.ofList digits)) rest
  | quoted {quote : Char} {written name rest : List Char} (hquote : quote = '\'' ∨ quote = '"')
    (hname : Quoted quote written name) :
    Item ('[' :: quote :: (written ++ [quote, ']'])) (.key (String.ofList name)) rest

/-- Items one after another, and their segments. -/
inductive Items : List Char → List Segment → Prop where
  | nil : Items [] []
  | cons {item rest : List Char} {s : Segment} {segments : List Segment}
    (hitem : Item item s rest) (behind : Items rest segments) :
    Items (item ++ rest) (s :: segments)

end Path

/-- The error is about a place in a text that starts at `start`, in bytes: the character
    that it names stands there, or a point stands before it and no name follows. -/
def PathError.PointsInto (start : Nat) (cs : List Char) : PathError → Prop
  | .unexpectedChar c position =>
    ∃ front behind, cs = front ++ c :: behind ∧ position = start + Text.byteLength front
  | .emptyName position =>
    ∃ front behind, cs = front ++ '.' :: behind ∧
      position = start + Text.byteLength (front ++ ['.']) ∧
      ∀ c ∈ behind.head?, c = '.' ∨ c = '['
  | .expectedRoot _ | .unexpectedEnd => True

namespace Path

variable {position : Nat} {cs rest : List Char} {s : Segment}

-- ════════════════════════════════════════════════════════════════════════
-- Names
-- ════════════════════════════════════════════════════════════════════════

theorem isNameChar_iff {c : Char} : isNameChar c ↔ c ≠ '.' ∧ c ≠ '[' := by
  simp [isNameChar]

theorem not_isNameChar_iff {c : Char} : ¬ isNameChar c ↔ c = '.' ∨ c = '[' := by
  rw [isNameChar_iff, ← not_or, Decidable.not_not]

theorem exists_quoted_of_quotedName {quote : Char} {name : List Char}
    (h : quotedName quote cs = some (name, rest)) :
    ∃ written, cs = written ++ quote :: rest ∧ Quoted quote written name := by
  fun_induction quotedName quote cs generalizing name with
  | case1 | case2 => cases h
  | case3 d cs ih =>
    obtain ⟨⟨name', rest'⟩, hname, heq⟩ := Option.map_eq_some_iff.1 h
    cases heq
    obtain ⟨written, rfl, hwritten⟩ := ih hname
    exact ⟨'\\' :: d :: written, rfl, .pair d hwritten⟩
  | case4 =>
    cases h
    exact ⟨[], rfl, .nil⟩
  | case5 c cs hbackslash hquote ih =>
    obtain ⟨⟨name', rest'⟩, hname, heq⟩ := Option.map_eq_some_iff.1 h
    cases heq
    obtain ⟨written, rfl, hwritten⟩ := ih hname
    exact ⟨c :: written, rfl, .plain hquote hbackslash hwritten⟩

theorem quotedName_of_quoted {quote : Char} {written name : List Char}
    (hquote : quote ≠ '\\') (h : Quoted quote written name) (rest : List Char) :
    quotedName quote (written ++ quote :: rest) = some (name, rest) := by
  induction h with
  | nil =>
    rw [List.nil_append, quotedName.eq_def]
    simp only [hquote, if_false, if_true]
  | plain hc hbackslash _ ih =>
    rw [List.cons_append, quotedName.eq_def]
    simp only [hc, hbackslash, if_false, ih, Option.map_some]
  | pair c _ ih =>
    rw [List.cons_append, List.cons_append, quotedName.eq_def]
    simp only [if_true, ih, Option.map_some]

/-- A quoted name is read up to the first quote that no backslash takes along. -/
theorem quotedName_eq_some_iff {quote : Char} {name : List Char} (hquote : quote ≠ '\\') :
    quotedName quote cs = some (name, rest) ↔
      ∃ written, cs = written ++ quote :: rest ∧ Quoted quote written name := by
  constructor
  · exact exists_quoted_of_quotedName
  · rintro ⟨written, rfl, h⟩
    exact quotedName_of_quoted hquote h rest

-- ════════════════════════════════════════════════════════════════════════
-- Brackets
-- ════════════════════════════════════════════════════════════════════════

/-- Digits in brackets are an item, whatever follows. -/
theorem item_digits {digits : List Char} (hne : digits ≠ []) (hdigits : ∀ c ∈ digits, c.isDigit)
    (rest : List Char) : Item ('[' :: (digits ++ [']'])) (digitsSegment digits) rest := by
  rw [digitsSegment]
  split
  · rename_i hfits
    exact .index hne hdigits hfits
  · rename_i hlarge
    exact .largeIndex hne hdigits (Nat.le_of_not_lt hlarge)

theorem exists_item_of_bracketed (h : bracketed position cs = .ok (s, rest)) :
    ∃ item, '[' :: cs = item ++ rest ∧ Item item s rest := by
  simp only [bracketed] at h
  split at h
  · cases h
  · cases h
  rename_i segment c behind hcontent
  split at h
  case isFalse => cases h
  rename_i hclosing
  cases h
  subst hclosing
  cases cs with
  | nil => cases hcontent
  | cons c cs =>
    simp only [bracketContent] at hcontent
    split at hcontent
    · rename_i hquote
      split at hcontent
      · rename_i name behind hname
        cases hcontent
        obtain ⟨written, rfl, hwritten⟩ := exists_quoted_of_quotedName hname
        exact ⟨_, by simp, .quoted hquote hwritten⟩
      · cases hcontent
    · split at hcontent
      · rename_i hdigit
        simp only [Except.ok.injEq, Prod.mk.injEq] at hcontent
        obtain ⟨rfl, hbehind⟩ := hcontent
        have hdigits : ∀ d ∈ c :: cs.takeWhile Char.isDigit, d.isDigit := by
          intro d hd
          rcases List.mem_cons.1 hd with rfl | hd
          · exact hdigit
          · exact List.all_eq_true.1 List.all_takeWhile d hd
        have hsplit := List.takeWhile_append_dropWhile (p := Char.isDigit) (l := cs)
        rw [hbehind] at hsplit
        refine ⟨_, ?_, item_digits (List.cons_ne_nil _ _) hdigits rest⟩
        conv => lhs; rw [← hsplit]
        simp
      · cases hcontent

theorem bracketed_of_digits {digits : List Char} (hne : digits ≠ [])
    (hdigits : ∀ c ∈ digits, c.isDigit) (position : Nat) (rest : List Char) :
    bracketed position (digits ++ ']' :: rest) = .ok (digitsSegment digits, rest) := by
  obtain ⟨c, tail, rfl⟩ := List.exists_cons_of_ne_nil hne
  have hc := hdigits c List.mem_cons_self
  have htail : ∀ d ∈ tail, d.isDigit := fun d hd => hdigits d (List.mem_cons_of_mem c hd)
  have hquote : ¬ (c = '\'' ∨ c = '"') := by
    rintro (rfl | rfl) <;> cases hc
  have hclosing : ¬ ']'.isDigit := by decide
  have hcontent : bracketContent position (c :: tail ++ ']' :: rest) =
      .ok (digitsSegment (c :: tail), ']' :: rest) := by
    rw [List.cons_append, bracketContent, if_neg hquote, if_pos hc,
      List.takeWhile_append_of_pos htail, List.dropWhile_append_of_pos htail,
      List.takeWhile_cons_of_neg hclosing, List.dropWhile_cons_of_neg hclosing, List.append_nil]
  rw [bracketed, hcontent]
  rfl

theorem bracketed_of_quoted {quote : Char} {written name : List Char}
    (hquote : quote = '\'' ∨ quote = '"') (hname : Quoted quote written name) (position : Nat)
    (rest : List Char) :
    bracketed position (quote :: (written ++ quote :: ']' :: rest)) =
      .ok (.key (String.ofList name), rest) := by
  have hbackslash : quote ≠ '\\' := by rcases hquote with rfl | rfl <;> decide
  rw [bracketed, bracketContent, if_pos hquote, quotedName_of_quoted hbackslash hname]
  rfl

-- ════════════════════════════════════════════════════════════════════════
-- Items
-- ════════════════════════════════════════════════════════════════════════

/-- An item starts with a point or an opening bracket. -/
theorem Items.head {segments : List Segment} (h : Items cs segments) :
    ∀ c ∈ cs.head?, c = '.' ∨ c = '[' := by
  intro c hc
  cases h with
  | nil => cases hc
  | cons hitem =>
    cases hitem with
    | member =>
      cases hc
      exact .inl rfl
    | index | largeIndex | quoted =>
      cases hc
      exact .inr rfl

theorem items_of_segments {segments : List Segment}
    (h : Path.segments position cs = .ok segments) : Items cs segments := by
  fun_induction Path.segments position cs generalizing segments with
  | case1 =>
    cases h
    exact .nil
  | case2 | case4 | case5 | case7 | case8 => cases h
  | case3 =>
    rename_i name hne _ rest hrest ih
    cases h
    have hname : ∀ c ∈ name, c ≠ '.' ∧ c ≠ '[' := fun c hc =>
      isNameChar_iff.1 (List.all_eq_true.1 List.all_takeWhile c hc)
    have hitems := ih hrest
    have hcons := Items.cons (.member hne hname hitems.head) hitems
    rw [List.cons_append, List.takeWhile_append_dropWhile] at hcons
    exact hcons
  | case6 =>
    rename_i hbracketed _ _ _ hrest ih
    cases h
    obtain ⟨item, hcs, hitem⟩ := exists_item_of_bracketed hbracketed
    rw [hcs]
    exact .cons hitem (ih hrest)

/-- A name behind a point is read up to the next item. -/
theorem segments_of_name {name : List Char} (hne : name ≠ []) (hname : ∀ c ∈ name, c ≠ '.' ∧ c ≠ '[')
    (hmaximal : ∀ c ∈ rest.head?, c = '.' ∨ c = '[') (position : Nat) :
    segments position ('.' :: (name ++ rest)) =
      (segments (position + 1 + Text.byteLength name) rest).map
        (.key (String.ofList name) :: ·) := by
  have hall : ∀ c ∈ name, isNameChar c := fun c hc => isNameChar_iff.2 (hname c hc)
  have hrest : rest.takeWhile isNameChar = [] ∧ rest.dropWhile isNameChar = rest := by
    cases rest with
    | nil => exact ⟨rfl, rfl⟩
    | cons c rest =>
      have hc := not_isNameChar_iff.2 (hmaximal c rfl)
      exact ⟨List.takeWhile_cons_of_neg hc, List.dropWhile_cons_of_neg hc⟩
  have htake : (name ++ rest).takeWhile isNameChar = name := by
    rw [List.takeWhile_append_of_pos hall, hrest.1, List.append_nil]
  have hdrop : (name ++ rest).dropWhile isNameChar = rest := by
    rw [List.dropWhile_append_of_pos hall, hrest.2]
  simp only [segments, htake, hdrop, if_neg hne]
  cases segments (position + 1 + Text.byteLength name) rest <;> rfl

/-- Brackets that are read are the first segment. -/
theorem segments_of_bracketed {position : Nat} {cs rest : List Char} {s : Segment}
    (h : bracketed (position + 1) cs = .ok (s, rest)) :
    segments position ('[' :: cs) =
      (segments (position + 1 + (Text.byteLength cs - Text.byteLength rest)) rest).map
        (s :: ·) := by
  conv =>
    lhs
    unfold segments
  split
  · rename_i heq
    cases heq
  · rename_i heq
    cases heq
  · rename_i heq
    cases heq
    split
    · rename_i herror
      rw [h] at herror
      cases herror
    · rename_i hok
      rw [h] at hok
      cases hok
      dsimp only
      split <;> rename_i hsegments <;> rw [hsegments] <;> rfl
  · rename_i hne heq
    cases heq
    exact absurd rfl hne

theorem segments_of_items {segments : List Segment} (h : Items cs segments) (position : Nat) :
    Path.segments position cs = .ok segments := by
  induction h generalizing position with
  | nil => rw [Path.segments]
  | cons hitem _ ih =>
    cases hitem with
    | member hne hname hmaximal =>
      rw [List.cons_append, segments_of_name hne hname hmaximal, ih]
      rfl
    | index hne hdigits hfits =>
      have hread := bracketed_of_digits hne hdigits (position + 1)
      rw [List.cons_append, List.append_assoc, List.singleton_append,
        segments_of_bracketed (hread _), ih, digitsSegment, if_pos hfits]
      rfl
    | largeIndex hne hdigits hlarge =>
      have hread := bracketed_of_digits hne hdigits (position + 1)
      rw [List.cons_append, List.append_assoc, List.singleton_append,
        segments_of_bracketed (hread _), ih, digitsSegment, if_neg (Nat.not_lt.2 hlarge)]
      rfl
    | quoted hquote hname =>
      have hread := bracketed_of_quoted hquote hname (position + 1)
      rw [List.cons_append, List.cons_append, List.append_assoc, List.cons_append,
        List.singleton_append, segments_of_bracketed (hread _), ih]
      rfl

/-- The segments that are read behind a root are those of the items that stand there. -/
theorem segments_eq_ok_iff {segments : List Segment} :
    Path.segments position cs = .ok segments ↔ Items cs segments :=
  ⟨items_of_segments, fun h => segments_of_items h position⟩

-- ════════════════════════════════════════════════════════════════════════
-- Errors
-- ════════════════════════════════════════════════════════════════════════

theorem pointsInto_append {e : PathError} {start : Nat} (front : List Char)
    (h : e.PointsInto (start + Text.byteLength front) cs) : e.PointsInto start (front ++ cs) := by
  cases e with
  | expectedRoot | unexpectedEnd => trivial
  | unexpectedChar c position =>
    obtain ⟨before, behind, rfl, hposition⟩ := h
    refine ⟨front ++ before, behind, by simp, ?_⟩
    rw [hposition, Text.byteLength_append, Nat.add_assoc]
  | emptyName position =>
    obtain ⟨before, behind, rfl, hposition, hhead⟩ := h
    refine ⟨front ++ before, behind, by simp, ?_, hhead⟩
    rw [hposition, List.append_assoc, Text.byteLength_append front, Nat.add_assoc]

theorem pointsInto_of_bracketed {e : PathError} (h : bracketed position cs = .error e) :
    e.PointsInto position cs := by
  simp only [bracketed] at h
  split at h
  · rename_i e' hcontent
    cases h
    cases cs with
    | nil =>
      cases hcontent
      trivial
    | cons c cs =>
      simp only [bracketContent] at hcontent
      split at hcontent
      · split at hcontent
        · cases hcontent
        · cases hcontent
          trivial
      · split at hcontent
        · cases hcontent
        · cases hcontent
          exact ⟨[], cs, rfl, rfl⟩
  · cases h
    trivial
  · rename_i segment c rest hcontent
    split at h
    · cases h
    · cases h
      obtain ⟨front, rfl⟩ := bracketContent_suffix hcontent
      refine ⟨front, rest, rfl, ?_⟩
      rw [Text.byteLength_append, Nat.add_sub_cancel]

/-- An error behind a root is about a place there. -/
theorem pointsInto_of_segments {e : PathError} (h : segments position cs = .error e) :
    e.PointsInto position cs := by
  fun_induction segments position cs with
  | case1 | case3 | case6 => cases h
  | case2 position cs name hempty =>
    cases h
    refine ⟨[], cs, rfl, rfl, fun c hc => ?_⟩
    cases cs with
    | nil => cases hc
    | cons d cs =>
      cases hc
      refine not_isNameChar_iff.1 fun hchar => ?_
      have hcons := (List.takeWhile_cons_of_pos hchar).symm.trans hempty
      cases hcons
  | case4 position cs =>
    rename_i name _ _ _ hrest ih
    cases h
    have hpoints := ih hrest
    have hfront : position + 1 + Text.byteLength name =
        position + Text.byteLength ('.' :: name) := Nat.add_assoc ..
    rw [hfront] at hpoints
    have happend := pointsInto_append _ hpoints
    rw [List.cons_append, List.takeWhile_append_dropWhile] at happend
    exact happend
  | case5 position cs e' hbracketed =>
    cases h
    exact pointsInto_append ['['] (pointsInto_of_bracketed hbracketed)
  | case7 position cs =>
    rename_i hbracketed _ taken _ hrest ih
    cases h
    have hpoints := ih hrest
    obtain ⟨front, rfl⟩ := bracketed_suffix hbracketed
    have hfront : position + 1 + taken = position + Text.byteLength ('[' :: front) := by
      simp only [taken, Text.byteLength_append, Nat.add_sub_cancel, Text.byteLength_cons]
      exact Nat.add_assoc ..
    rw [hfront] at hpoints
    exact pointsInto_append ('[' :: front) hpoints
  | case8 position c cs =>
    cases h
    exact ⟨[], cs, rfl, rfl⟩

/-- A text is a path exactly if it is a root with items behind it, and its segments are
    those of the items. Where a text is no path, the error is about a place in it. -/
theorem parse_eq_ok_iff (path : String) :
    (∀ segments, parse path = .ok segments ↔
      ∃ root rest, (root = '$' ∨ root = '@') ∧ path.toList = root :: rest ∧ Items rest segments) ∧
    ∀ e, parse path = .error e → e.PointsInto 0 path.toList := by
  have hroot : ∀ root cs, root = '$' ∨ root = '@' → path.toList = root :: cs →
      parse path = segments 1 cs := by
    rintro root cs (rfl | rfl) hpath <;>
    · rw [parse, hpath]
      rfl
  have hother : (∀ root cs, root = '$' ∨ root = '@' → path.toList ≠ root :: cs) →
      parse path = .error (.expectedRoot path) := by
    intro hnone
    unfold parse
    split
    · rename_i hpath
      exact absurd hpath (hnone _ _ (.inl rfl))
    · rename_i hpath
      exact absurd hpath (hnone _ _ (.inr rfl))
    · rfl
  by_cases hpath : ∃ root cs, (root = '$' ∨ root = '@') ∧ path.toList = root :: cs
  · obtain ⟨root, cs, hkind, hpath⟩ := hpath
    rw [hroot root cs hkind hpath, hpath]
    constructor
    · intro segments
      rw [segments_eq_ok_iff]
      constructor
      · intro hitems
        exact ⟨root, cs, hkind, rfl, hitems⟩
      · rintro ⟨root', rest, _, heq, hitems⟩
        obtain ⟨_, rfl⟩ := List.cons.inj heq
        exact hitems
    · intro e he
      have hsize : 0 + Text.byteLength [root] = 1 := by
        rcases hkind with rfl | rfl <;> rfl
      refine pointsInto_append [root] ?_
      rw [hsize]
      exact pointsInto_of_segments he
  · rw [hother fun root cs hkind heq => hpath ⟨root, cs, hkind, heq⟩]
    constructor
    · intro segments
      refine iff_of_false (by rintro ⟨⟩) ?_
      rintro ⟨root, rest, hkind, heq, _⟩
      exact hpath ⟨root, rest, hkind, heq⟩
    · rintro e ⟨⟩
      trivial

/-- A name may hold a closing bracket, a quoted one its quote, and digits that do not fit 64
    bits are a name; an `x` in brackets is refused where it stands, behind five bytes. -/
theorem parse_eq_ok_iff_misplaced :
    parse "@['a\\'é'].]b[18446744073709551616]" =
        .ok [.key "a'é", .key "]b", .key "18446744073709551616"] ∧
      parse "$.é[x]" = .error (.unexpectedChar 'x' 5) ∧
      (PathError.unexpectedChar 'x' 5).PointsInto 0 "$.é[x]".toList := by
  have herror : parse "$.é[x]" = .error (.unexpectedChar 'x' 5) := by
    have hroot : "$.é[x]".toList = ['$', '.', 'é', '[', 'x', ']'] := by decide +kernel
    have hbrackets : segments 4 ['[', 'x', ']'] = .error (.unexpectedChar 'x' 5) := by
      rw [segments]
      rfl
    have hchars : ∀ c ∈ ['é'], c ≠ '.' ∧ c ≠ '[' :=
      List.forall_mem_singleton.2 (isNameChar_iff.1 rfl)
    have hend : ∀ c ∈ ['[', 'x', ']'].head?, c = '.' ∨ c = '[' := by
      rintro c ⟨⟩
      exact .inr rfl
    have hsegments := segments_of_name (List.cons_ne_nil _ _) hchars hend 1
    rw [parse, hroot]
    exact hsegments.trans (congrArg _ hbrackets)
  have hquoted : Quoted '\'' ['a', '\\', '\'', 'é'] ['a', '\'', 'é'] := by
    apply Quoted.plain (by decide) (by decide)
    apply Quoted.pair
    exact .plain (by decide) (by decide) .nil
  have hname : ∀ c ∈ [']', 'b'], c ≠ '.' ∧ c ≠ '[' := fun c hc =>
    isNameChar_iff.1 (List.all_eq_true.1 rfl c hc)
  obtain ⟨digits, hspelling⟩ : ∃ digits, "18446744073709551616".toList = digits := ⟨_, rfl⟩
  have hne : digits ≠ [] := by
    rw [← hspelling]
    decide
  have hdigits : ∀ c ∈ digits, c.isDigit := by
    rw [← hspelling]
    exact List.all_eq_true.1 rfl
  have hlarge : UInt64.size ≤ Nat.ofDigitChars 10 digits 0 := by
    rw [← hspelling]
    decide
  have hlast : Items ('[' :: (digits ++ [']']) ++ []) [.key (String.ofList digits)] :=
    .cons (.largeIndex hne hdigits hlarge) .nil
  have hmember : Item ('.' :: [']', 'b']) (.key (String.ofList [']', 'b'])) _ :=
    .member (List.cons_ne_nil _ _) hname hlast.head
  have hitems := Items.cons (.quoted (.inl rfl) hquoted) (.cons hmember hlast)
  have htext : "@['a\\'é'].]b[18446744073709551616]".toList =
      '@' :: ('[' :: '\'' :: (['a', '\\', '\'', 'é'] ++ ['\'', ']']) ++
        ('.' :: [']', 'b'] ++ ('[' :: (digits ++ [']']) ++ []))) := by
    rw [← hspelling]
    decide +kernel
  have hnames : String.ofList ['a', '\'', 'é'] = "a'é" ∧ String.ofList [']', 'b'] = "]b" := by
    decide +kernel
  rw [hnames.1, hnames.2, ← hspelling, String.ofList_toList, hspelling] at hitems
  exact ⟨((parse_eq_ok_iff _).1 _).2 ⟨'@', _, .inr rfl, htext, hitems⟩, herror,
    (parse_eq_ok_iff _).2 _ herror⟩

end Path

end ScalarExpr

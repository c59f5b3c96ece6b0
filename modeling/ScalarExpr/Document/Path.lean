import ScalarExpr.Document.Basic
import ScalarExpr.Text.Basic
import ScalarExpr.Text.Quoted
/-!
# Paths into documents

A path starts at the root, `$` or `@`, and goes on with member names after
points, and with indexes or quoted names in brackets: `$.items[0]['a b']`.

## Main definitions

- `Segment` — one step of a path
- `Path.parse` — the segments of a path
- `Document.walk` — the operand that the segments lead to

## Design notes

Positions in messages are counted in bytes from the start of the path.
-/

namespace ScalarExpr

/-- One step of a path. -/
inductive Segment where
  | key (name : String)
  | index (n : Nat)
deriving DecidableEq

/-- Why a text is no path. -/
inductive PathError where
  | expectedRoot (path : String)
  | unexpectedChar (c : Char) (position : Nat)
  | unexpectedEnd
  | emptyName (position : Nat)
deriving DecidableEq

/-- The wording of a path error. -/
def PathError.message : PathError → String
  | expectedRoot path => "path must start with '$' or '@': " ++ path
  | unexpectedChar c position =>
    "unexpected character " ++ Text.quotedChar c ++ " at " ++ toString position ++ " in path"
  | unexpectedEnd => "unexpected end of path"
  | emptyName position => "empty member name at " ++ toString position ++ " in path"

namespace Path

/-- A character of a member name after a point. -/
def isNameChar (c : Char) : Bool := c ≠ '.' && c ≠ '['

/-- A quoted name up to its quote. A backslash stands before a character that is
    taken as it is. -/
def quotedName (quote : Char) : List Char → Option (List Char × List Char)
  | [] => none
  | c :: cs =>
    if c = '\\' then
      match cs with
      | [] => none
      | d :: cs => (quotedName quote cs).map fun (name, rest) => (d :: name, rest)
    else if c = quote then some ([], cs)
    else (quotedName quote cs).map fun (name, rest) => (c :: name, rest)

/-- The step that digits in brackets stand for: an index if it fits 64 bits, or
    else a name. -/
def digitsSegment (digits : List Char) : Segment :=
  let n := Nat.ofDigitChars 10 digits 0
  if n < UInt64.size then .index n else .key (String.ofList digits)

/-- The step that brackets hold, and the text from the closing bracket on. -/
def bracketContent (position : Nat) : List Char → Except PathError (Segment × List Char)
  | [] => .error .unexpectedEnd
  | c :: cs =>
    if c = '\'' ∨ c = '"' then
      match quotedName c cs with
      | some (name, rest) => .ok (.key (String.ofList name), rest)
      | none => .error .unexpectedEnd
    else if c.isDigit then
      .ok (digitsSegment (c :: cs.takeWhile Char.isDigit), cs.dropWhile Char.isDigit)
    else
      .error (.unexpectedChar c position)

theorem quotedName_suffix {quote : Char} {cs name rest : List Char}
    (h : quotedName quote cs = some (name, rest)) : rest <:+ cs := by
  fun_induction quotedName quote cs generalizing name with
  | case1 | case2 => exact nomatch h
  | case3 d cs ih =>
    obtain ⟨⟨name', rest'⟩, hn, he⟩ := Option.map_eq_some_iff.1 h
    cases he
    exact (ih hn).trans ((List.suffix_cons d cs).trans (List.suffix_cons _ _))
  | case4 =>
    cases h
    exact List.suffix_cons _ _
  | case5 c cs _ _ ih =>
    obtain ⟨⟨name', rest'⟩, hn, he⟩ := Option.map_eq_some_iff.1 h
    cases he
    exact (ih hn).trans (List.suffix_cons c cs)

theorem bracketContent_suffix {position : Nat} {cs rest : List Char} {s : Segment}
    (h : bracketContent position cs = .ok (s, rest)) : rest <:+ cs := by
  cases cs with
  | nil => exact nomatch h
  | cons c cs =>
    simp only [bracketContent] at h
    split at h
    · split at h
      · rename_i hn
        cases h
        exact (quotedName_suffix hn).trans (List.suffix_cons c cs)
      · exact nomatch h
    · split at h
      · cases h
        exact (List.dropWhile_suffix _).trans (List.suffix_cons c cs)
      · exact nomatch h

/-- The step that brackets hold, the opening one already taken, and the text behind
    the closing one. -/
def bracketed (position : Nat) (cs : List Char) : Except PathError (Segment × List Char) :=
  match bracketContent position cs with
  | .error e => .error e
  | .ok (_, []) => .error .unexpectedEnd
  | .ok (segment, c :: rest) =>
    if c = ']' then .ok (segment, rest)
    else .error (.unexpectedChar c (position + (Text.byteLength cs - Text.byteLength (c :: rest))))

theorem bracketed_suffix {position : Nat} {cs rest : List Char} {s : Segment}
    (h : bracketed position cs = .ok (s, rest)) : rest <:+ cs := by
  simp only [bracketed] at h
  split at h
  · exact nomatch h
  · exact nomatch h
  · rename_i c _ hc
    split at h
    · cases h
      exact (List.suffix_cons c _).trans (bracketContent_suffix hc)
    · exact nomatch h

/-- The segments of a path from a position behind its root. -/
def segments (position : Nat) : List Char → Except PathError (List Segment)
  | [] => .ok []
  | '.' :: cs =>
    let name := cs.takeWhile isNameChar
    if name = [] then .error (.emptyName (position + 1))
    else
      have := (List.dropWhile_suffix (l := cs) isNameChar).length_le
      match segments (position + 1 + Text.byteLength name) (cs.dropWhile isNameChar) with
      | .ok rest => .ok (.key (String.ofList name) :: rest)
      | .error e => .error e
  | '[' :: cs =>
    match h : bracketed (position + 1) cs with
    | .error e => .error e
    | .ok (segment, rest) =>
      have := (bracketed_suffix h).length_le
      let taken := Text.byteLength cs - Text.byteLength rest
      match segments (position + 1 + taken) rest with
      | .ok others => .ok (segment :: others)
      | .error e => .error e
  | c :: _ => .error (.unexpectedChar c position)
termination_by cs => cs.length

/-- The segments of a path. -/
def parse (path : String) : Except PathError (List Segment) :=
  match path.toList with
  | '$' :: cs | '@' :: cs => segments 1 cs
  | _ => .error (.expectedRoot path)

end Path

namespace Document

/-- The position in an array that a name spells: digits, after a plus sign or
    not. -/
def arrayPosition? (name : String) : Option Nat :=
  let digits := match name.toList with
    | '+' :: cs => cs
    | cs => cs
  if digits ≠ [] ∧ digits.all Char.isDigit then some (Nat.ofDigitChars 10 digits 0) else none

/-- The part of a document one step down. -/
def child? : Document → Segment → Option Document
  | object members, .key name => members.lookup name
  | object members, .index n => members.lookup (toString n)
  | array items, .index n => items[n]?
  | array items, .key name => (arrayPosition? name).bind (items[·]?)
  | _, _ => none

/-- The length of an array, or of a text in 16-bit units. -/
def length? : Document → Option Nat
  | array items => some items.length
  | string s => some (Text.units16 s.toList)
  | _ => none

/-- The operand that segments lead to. A step that leads nowhere makes it
    undefined; the last step may ask for the length of an array or a text. -/
def walk [Regex.Engine] : Document → List Segment → Operand
  | d, [] => d.toOperand
  | d, s :: rest =>
    match rest, s, d.length? with
    | [], .key "length", some n => .ofInt n
    | _, _, _ =>
      match d.child? s with
      | some next => next.walk rest
      | none => .undefined

end Document

end ScalarExpr

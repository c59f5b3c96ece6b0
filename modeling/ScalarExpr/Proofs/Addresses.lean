import ScalarExpr.Proofs.Numerals
import ScalarExpr.Proofs.PathGrammar
import ScalarExpr.Proofs.Source
import ScalarExpr.Regex.Dialect
import ScalarExpr.Scope
/-!
# Addresses of the parts of a document

A part of a document is reached by names in objects and by positions in arrays. Each
such step can be written in brackets, a name in quotes of either kind. The path that
is written this way is read as one variable, has the steps as its segments, and is
resolved to the part.

## Main definitions

- `Bracket` — a step in brackets, `Bracket.text` its writing
- `Path.address` — a root and steps in brackets
- `Document.Reaches` — the part of a document that steps lead to
- `Document.StandsFor` — the operand of a part, for each kind of part

## Main statements

- `Lexer.readToken_address`: an address is read as one variable
- `Path.parse_address`: its segments are its steps
- `Document.walk_of_reaches`: the segments lead to the part that the steps lead to
- `Scope.resolve_address`: every part of a document has its addresses
-/

namespace ScalarExpr

/-- A quote of one of the two kinds. -/
inductive Quote where
  | single
  | double

namespace Quote

def char : Quote → Char
  | single => '\''
  | double => '"'

/-- A name within quotes of this kind: a backslash stands before each such quote and
    each backslash of its own. -/
def escape (quote : Quote) (name : List Char) : List Char :=
  name.flatMap fun c => if c = quote.char ∨ c = '\\' then ['\\', c] else [c]

theorem char_eq (quote : Quote) : quote.char = '\'' ∨ quote.char = '"' := by
  cases quote with
  | single => exact .inl rfl
  | double => exact .inr rfl

theorem char_ne_backslash (quote : Quote) : quote.char ≠ '\\' := by
  cases quote <;> decide

/-- A name is escaped character by character: two characters for one that is a quote
    or a backslash, or else the character itself. -/
theorem escape_induction {quote : Quote} {P : List Char → List Char → Prop} (nil : P [] [])
    (special : ∀ c name, P name (quote.escape name) →
      P (c :: name) ('\\' :: c :: quote.escape name))
    (plain : ∀ c name, c ≠ quote.char → c ≠ '\\' → P name (quote.escape name) →
      P (c :: name) (c :: quote.escape name)) (name : List Char) : P name (quote.escape name) := by
  induction name with
  | nil => exact nil
  | cons c name ih =>
    rw [escape, List.flatMap_cons]
    by_cases hc : c = quote.char ∨ c = '\\'
    · rw [if_pos hc]
      exact special c name ih
    · obtain ⟨hquote, hbackslash⟩ := not_or.1 hc
      rw [if_neg hc]
      exact plain c name hquote hbackslash ih

end Quote

/-- A step in brackets: a position in an array, or a name in quotes. A position may
    be written as a name as well. -/
inductive Bracket where
  | index (n : Nat)
  | quoted (quote : Quote) (name : String)

namespace Bracket

/-- What stands between the brackets. -/
def content : Bracket → List Char
  | index n => Nat.toDigits 10 n
  | quoted quote name => quote.char :: (quote.escape name.toList ++ [quote.char])

def text (b : Bracket) : List Char := '[' :: (b.content ++ [']'])

/-- The segment that is written. -/
def segment : Bracket → Segment
  | index n => .index n
  | quoted _ name => .key name

/-- A position fits 64 bits. -/
def Fits : Bracket → Prop
  | index n => n < UInt64.size
  | quoted _ _ => True

end Bracket

/-- The path that starts at a root and goes on with steps in brackets. -/
def Path.address (root : Char) (steps : List Bracket) : String :=
  String.ofList (root :: steps.flatMap Bracket.text)

-- ════════════════════════════════════════════════════════════════════════
-- An address is one variable
-- ════════════════════════════════════════════════════════════════════════

namespace Lexer

variable {depth : Nat} {cs path rest : List Char}

/-- Within quotes, an escaped name is read up to the quote behind it. -/
theorem variablePath_escape (quote : Quote) (name : List Char)
    (h : variablePath depth none cs = .ok (path, rest)) :
    variablePath depth (some quote.char) (quote.escape name ++ quote.char :: cs) =
      .ok (quote.escape name ++ quote.char :: path, rest) := by
  refine quote.escape_induction (P := fun _ escaped =>
    variablePath depth (some quote.char) (escaped ++ quote.char :: cs) =
      .ok (escaped ++ quote.char :: path, rest)) ?nil ?special ?plain name
  case nil =>
    rw [List.nil_append, variablePath.eq_def]
    simp only [quote.char_ne_backslash, if_false, if_true, h, withFirst, List.nil_append]
  case special =>
    intro c name ih
    rw [List.cons_append, List.cons_append, variablePath.eq_def]
    simp only [if_true, ih, withFirst, List.cons_append]
  case plain =>
    intro c name hquote hbackslash ih
    rw [List.cons_append, variablePath.eq_def]
    simp only [hquote, hbackslash, if_false, ih, withFirst, List.cons_append]

/-- Within brackets, digits are read up to what follows them. -/
theorem variablePath_digits {digits : List Char} (hdigits : ∀ c ∈ digits, c.isDigit)
    (h : variablePath (depth + 1) none cs = .ok (path, rest)) :
    variablePath (depth + 1) none (digits ++ cs) = .ok (digits ++ path, rest) := by
  induction digits with
  | nil => exact h
  | cons c digits ih =>
    have hc := hdigits c List.mem_cons_self
    have hne : ∀ d, ¬ d.isDigit → c ≠ d := fun d hd heq => hd (heq ▸ hc)
    have ih := ih fun d hd => hdigits d (List.mem_cons_of_mem c hd)
    rw [List.cons_append, variablePath.eq_def]
    simp only [hne '[' (by decide), hne ']' (by decide), hne '"' (by decide),
      hne '\'' (by decide), or_self, if_false, ih, withFirst, List.cons_append]

theorem variablePath_bracket (b : Bracket) (h : variablePath 0 none cs = .ok (path, rest)) :
    variablePath 0 none (b.text ++ cs) = .ok (b.text ++ path, rest) := by
  have hclose : variablePath 1 none (']' :: cs) = .ok (']' :: path, rest) := by
    rw [variablePath.eq_def]
    simp [h, withFirst]
  have hcontent : variablePath 1 none (b.content ++ ']' :: cs) =
      .ok (b.content ++ ']' :: path, rest) := by
    cases b with
    | index n => exact variablePath_digits (fun c hc => Decimal.isDigit_of_mem_toDigits hc) hclose
    | quoted quote name =>
      have hname := variablePath_escape quote name.toList hclose
      rw [Bracket.content, List.cons_append, List.append_assoc, List.singleton_append,
        variablePath.eq_def]
      cases quote <;> simp only [Quote.char] at hname ⊢ <;> simp [hname, withFirst]
  rw [Bracket.text, List.cons_append, List.append_assoc, List.singleton_append,
    variablePath.eq_def]
  simp only [if_true, hcontent, withFirst, List.cons_append, List.append_assoc, List.nil_append]

theorem variablePath_brackets (steps : List Bracket) (hrest : EndsPath rest) :
    variablePath 0 none (steps.flatMap Bracket.text ++ rest) =
      .ok (steps.flatMap Bracket.text, rest) := by
  induction steps with
  | nil => exact variablePath_of_endsPath hrest
  | cons b steps ih =>
    rw [List.flatMap_cons, List.append_assoc]
    exact variablePath_bracket b ih

/-- An address is read as one variable before whatever ends a path. -/
theorem readToken_address [Regex.Engine] {root : Char} (hroot : root = '$' ∨ root = '@')
    (steps : List Bracket) (hrest : EndsPath rest) (operandExpected : Bool) :
    readToken operandExpected root (steps.flatMap Bracket.text ++ rest) =
      .ok (.variable (Path.address root steps), rest) := by
  have hstart : startsVariable root := by
    rcases hroot with rfl | rfl <;> rfl
  have hkeyword : readKeyword? (root :: (steps.flatMap Bracket.text ++ rest)) = none := by
    rcases hroot with rfl | rfl <;> rfl
  have hbracket : root ≠ '[' := fun heq => absurd hstart (heq ▸ by decide)
  have hpath : variablePath 0 none (root :: (steps.flatMap Bracket.text ++ rest)) =
      .ok (root :: steps.flatMap Bracket.text, rest) := by
    rw [variablePath, if_neg hbracket, if_neg (not_isBound_of_startsVariable hstart),
      variablePath_brackets steps hrest, withFirst]
  rw [readToken_startsVariable hstart, hkeyword, readVariable, hpath]
  rfl

/-- What may follow an address: separators, parentheses and operators. -/
theorem endsPath_of_head (h : ∀ c ∈ rest.head?,
    Text.isSeparator c ∨ c = '(' ∨ c = ')' ∨ Operator.isStart c) : EndsPath rest := by
  intro c hc
  rcases h c hc with hsep | rfl | rfl | hstart
  · exact ⟨isBound_of_isSeparator hsep, fun heq => absurd hsep (heq ▸ by decide)⟩
  · decide
  · decide
  · exact ⟨by simp [isBound, hstart], fun heq => absurd hstart (heq ▸ by decide)⟩

end Lexer

-- ════════════════════════════════════════════════════════════════════════
-- The segments of an address
-- ════════════════════════════════════════════════════════════════════════

namespace Path

/-- An escaped name is a writing of the name within its quotes. -/
theorem quoted_escape (quote : Quote) (name : List Char) :
    Quoted quote.char (quote.escape name) name := by
  refine quote.escape_induction (P := fun name escaped => Quoted quote.char escaped name)
    .nil ?special ?plain name
  case special =>
    intro c name ih
    exact .pair c ih
  case plain =>
    intro c name hquote hbackslash ih
    exact .plain hquote hbackslash ih

/-- A step in brackets is an item of a path. -/
theorem item_text {b : Bracket} (h : b.Fits) (rest : List Char) : Item b.text b.segment rest := by
  cases b with
  | index n =>
    have hvalue := Nat.ofDigitChars_ten_toDigits (n := n)
    have hdigits : ∀ c ∈ Nat.toDigits 10 n, c.isDigit := fun _ => Decimal.isDigit_of_mem_toDigits
    have hfits : Nat.ofDigitChars 10 (Nat.toDigits 10 n) 0 < UInt64.size := by rwa [hvalue]
    have hitem : Item _ _ rest := .index Nat.toDigits_ne_nil hdigits hfits
    rw [hvalue] at hitem
    exact hitem
  | quoted quote name =>
    have hitem : Item _ _ rest := .quoted quote.char_eq (quoted_escape quote name.toList)
    rw [String.ofList_toList] at hitem
    simpa [Bracket.text, Bracket.content, Bracket.segment] using hitem

theorem items_brackets {steps : List Bracket} (h : ∀ b ∈ steps, b.Fits) :
    Items (steps.flatMap Bracket.text) (steps.map Bracket.segment) := by
  induction steps with
  | nil => exact .nil
  | cons b steps ih =>
    have hbehind := ih fun b' hb' => h b' (List.mem_cons_of_mem b hb')
    exact .cons (item_text (h b List.mem_cons_self) _) hbehind

/-- The segments of an address are its steps. -/
theorem parse_address {root : Char} (hroot : root = '$' ∨ root = '@') {steps : List Bracket}
    (h : ∀ b ∈ steps, b.Fits) : parse (address root steps) = .ok (steps.map Bracket.segment) := by
  rw [parse, address, String.toList_ofList]
  have hread := segments_of_items (items_brackets h) 1
  rcases hroot with rfl | rfl <;> exact hread

end Path

-- ════════════════════════════════════════════════════════════════════════
-- The part that an address leads to
-- ════════════════════════════════════════════════════════════════════════

namespace Document

/-- The part of a document that steps lead to: an item of an array by its position or
    by the decimal of its position as a name, and a member of an object by its name. -/
inductive Reaches : Document → List Bracket → Document → Prop where
  | here (d : Document) : Reaches d [] d
  | item {items : List Document} {n : Nat} {steps : List Bracket} {next d : Document}
    (hfits : n < UInt64.size) (hitem : items[n]? = some next) (hnext : Reaches next steps d) :
    Reaches (.array items) (.index n :: steps) d
  | namedItem {items : List Document} {n : Nat} {steps : List Bracket} {next d : Document}
    (quote : Quote) (hitem : items[n]? = some next) (hnext : Reaches next steps d) :
    Reaches (.array items) (.quoted quote (toString n) :: steps) d
  | member {names : List String} {members : Members names} {name : String}
    {steps : List Bracket} {next d : Document} (quote : Quote)
    (hmember : (name, next) ∈ members.toList) (hnext : Reaches next steps d) :
    Reaches (.object members) (.quoted quote name :: steps) d

theorem Reaches.fits {d d' : Document} {steps : List Bracket} (h : d.Reaches steps d') :
    ∀ b ∈ steps, b.Fits := by
  induction h with
  | here => exact fun b hb => nomatch hb
  | item hfits _ _ ih =>
    intro b hb
    rcases List.mem_cons.1 hb with rfl | hb
    · exact hfits
    · exact ih b hb
  | namedItem _ _ _ ih | member _ _ _ ih =>
    intro b hb
    rcases List.mem_cons.1 hb with rfl | hb
    · trivial
    · exact ih b hb

/-- Digits spell the position that is their number, also behind a plus sign. -/
theorem arrayPosition?_of_sign {name : String} {sign digits : List Char}
    (hsign : Numeral.Sign false sign) (hne : digits ≠ []) (hdigits : ∀ c ∈ digits, c.isDigit)
    (hname : name.toList = sign ++ digits) :
    arrayPosition? name = some (Nat.ofDigitChars 10 digits 0) := by
  have hall : digits.all Char.isDigit := List.all_eq_true.2 hdigits
  rw [arrayPosition?, hname]
  cases hsign with
  | plus => exact if_pos ⟨hne, hall⟩
  | absent =>
    obtain ⟨c, tail, rfl⟩ := List.exists_cons_of_ne_nil hne
    have hplus : c ≠ '+' := (Numeral.ne_sign_of_isDigit (hdigits c List.mem_cons_self)).1
    rw [List.nil_append]
    split
    · rename_i hmatch
      exact absurd (List.cons.inj hmatch).1 hplus
    · exact if_pos ⟨hne, hall⟩

theorem arrayPosition?_toString (n : Nat) : arrayPosition? (toString n) = some n := by
  have hdigits : ∀ c ∈ Nat.toDigits 10 n, c.isDigit := fun _ => Decimal.isDigit_of_mem_toDigits
  have hposition := arrayPosition?_of_sign .absent Nat.toDigits_ne_nil hdigits Nat.toList_repr
  rwa [Nat.ofDigitChars_ten_toDigits] at hposition

theorem toString_ne_length (n : Nat) : toString n ≠ "length" := by
  intro heq
  have hposition := arrayPosition?_toString n
  rw [heq] at hposition
  cases hposition

/-- An index and its decimal lead to the same part of an array or an object. -/
theorem child?_toString (d : Document) (n : Nat) :
    d.child? (.key (toString n)) = d.child? (.index n) := by
  cases d with
  | array items => exact congrArg (·.bind (items[·]?)) (arrayPosition?_toString n)
  | null | boolean | number | string | object => rfl

variable [Regex.Engine]

/-- The operand that a part of a document stands for: a value for itself, a whole number for
    the nearest double, and an array or an object for what is undefined. -/
inductive StandsFor : Document → Operand → Prop where
  | null : StandsFor .null .null
  | boolean (b : Bool) : StandsFor (.boolean b) (.boolean b)
  | integer (n : Int) : StandsFor (.number (.integer n)) (.number (.ofInt n))
  | double (x : Double) : StandsFor (.number (.double x)) (.number x)
  | string (s : String) : StandsFor (.string s) (.string s)
  | array (items : List Document) : StandsFor (.array items) .undefined
  | object {names : List String} (members : Members names) :
    StandsFor (.object members) .undefined

theorem standsFor_toOperand (d : Document) : d.StandsFor d.toOperand := by
  cases d with
  | null => exact .null
  | boolean b => exact .boolean b
  | number n =>
    cases n with
    | integer n => exact .integer n
    | double x => exact .double x
  | string s => exact .string s
  | array items => exact .array items
  | object members => exact .object members

/-- A step that is not for the length of anything leads to the part one step down, if
    there is one. -/
theorem walk_step {d : Document} {s : Segment} {rest : List Segment}
    (hlength : rest = [] → s = .key "length" → d.length? = none) :
    d.walk (s :: rest) = (d.child? s).elim .undefined (·.walk rest) := by
  have hother : ∀ n, rest = [] → s = .key "length" → d.length? = some n → False := by
    intro n hrest hs hn
    rw [hlength hrest hs] at hn
    cases hn
  rw [walk]
  · cases d.child? s <;> rfl
  · exact hother

theorem walk_cons {d next : Document} {s : Segment} (rest : List Segment)
    (hlength : s = .key "length" → d.length? = none) (hchild : d.child? s = some next) :
    d.walk (s :: rest) = next.walk rest := by
  rw [walk_step fun _ => hlength, hchild]
  rfl

/-- The segments of steps lead to the operand of the part that the steps lead to. -/
theorem walk_of_reaches {d d' : Document} {steps : List Bracket} (h : d.Reaches steps d') :
    d.walk (steps.map Bracket.segment) = d'.toOperand := by
  induction h with
  | here d => rw [List.map_nil, walk]
  | @item items n steps next d _ hitem _ ih =>
    have hchild : (array items).child? (.index n) = some next := hitem
    have hlength : Segment.index n ≠ .key "length" := fun heq => nomatch heq
    rw [List.map_cons, Bracket.segment, walk_cons _ (fun heq => absurd heq hlength) hchild, ih]
  | @namedItem items n steps next d quote hitem _ ih =>
    have hchild : (array items).child? (.key (toString n)) = some next := by
      rw [child?_toString]
      exact hitem
    have hlength : Segment.key (toString n) ≠ .key "length" := fun heq =>
      toString_ne_length n (Segment.key.inj heq)
    rw [List.map_cons, Bracket.segment, walk_cons _ (fun heq => absurd heq hlength) hchild, ih]
  | @member names members name steps next d quote hmember _ ih =>
    have hchild : (object members).child? (.key name) = some next :=
      Members.lookup_eq_some_iff.2 hmember
    rw [List.map_cons, Bracket.segment, walk_cons _ (fun _ => rfl) hchild, ih]

end Document

/-- A part of a document is read by each of its addresses and resolved to the operand that it
    stands for. -/
theorem Scope.resolve_address [Regex.Engine] {scope : Scope} {steps : List Bracket} {d : Document}
    (h : scope.document.Reaches steps d) {root : Char} (hroot : root = '$' ∨ root = '@')
    {rest : List Char}
    (hrest : ∀ c ∈ rest.head?, Text.isSeparator c ∨ c = '(' ∨ c = ')' ∨ Operator.isStart c) :
    (∀ operandExpected offset,
      Lexer.tokensFrom operandExpected offset ((Path.address root steps).toList ++ rest) =
        (Lexer.tokensFrom false (offset + Text.byteLength (Path.address root steps).toList) rest).map
          (⟨.variable (Path.address root steps), offset⟩ :: ·)) ∧
      Path.parse (Path.address root steps) = .ok (steps.map Bracket.segment) ∧
      ∃ value, scope.resolve (Path.address root steps) = .ok value ∧ d.StandsFor value := by
  have hparse := Path.parse_address hroot h.fits
  have htoList : (Path.address root steps).toList = root :: steps.flatMap Bracket.text :=
    String.toList_ofList
  refine ⟨fun operandExpected offset => ?_, hparse, d.toOperand, ?_, d.standsFor_toOperand⟩
  · have hread := Lexer.readToken_address hroot steps (Lexer.endsPath_of_head hrest) operandExpected
    have hsep : ¬ Text.isSeparator root := by
      rcases hroot with rfl | rfl <;> decide
    rw [htoList]
    exact Lexer.tokensFrom_cons hsep hread offset
  · rw [resolve, htoList, hparse, ← Document.walk_of_reaches h]
    rcases hroot with rfl | rfl <;> rfl

/-- The member `it's` of an object is an array, with items of each kind. -/
theorem Scope.resolve_address_member :
    let members : Document.Members ["a"] := .cons "a" .null List.not_mem_nil .nil
    let items : List Document :=
      [.null, .boolean true, .number (.integer (-7)), .string "b", .array [], .object members]
    let scope : Scope :=
      { document := .object (.cons "it's" (.array items) List.not_mem_nil .nil) }
    let steps (n : Nat) : List Bracket := [.quoted .single "it's", .index n]
    scope.document.Reaches (steps 1) (.boolean true) ∧
      Path.address '$' (steps 1) = "$['it\\'s'][1]" ∧
      tokenize "$['it\\'s'][1]!" =
        .ok [⟨.variable "$['it\\'s'][1]", 0⟩, ⟨.operator (.unary .not), 13⟩] ∧
      Path.parse "$['it\\'s'][1]" = .ok [.key "it's", .index 1] ∧
      scope.resolve "$['it\\'s'][0]" = .ok .null ∧
      scope.resolve "$['it\\'s'][1]" = .ok (.boolean true) ∧
      scope.resolve "$['it\\'s'][2]" = .ok (.number (.ofInt (-7))) ∧
      scope.resolve "$['it\\'s'][3]" = .ok (.string "b") ∧
      scope.resolve "$['it\\'s'][4]" = .ok .undefined ∧
      scope.resolve "$['it\\'s'][5]" = .ok .undefined ∧
      scope.resolve "$['it\\'s'][5]['a']" = .ok .null := by
  intro members items scope steps
  have hroot : '$' = '$' ∨ '$' = '@' := .inl rfl
  have hreaches {n : Nat} {d : Document} (hfits : n < UInt64.size) (hitem : items[n]? = some d) :
      scope.document.Reaches (steps n) d :=
    .member .single List.mem_cons_self (.item hfits hitem (.here d))
  have hmember : scope.document.Reaches (steps 5 ++ [.quoted .single "a"]) .null :=
    .member .single List.mem_cons_self
      (.item (by decide) rfl (.member .single List.mem_cons_self (.here .null)))
  have hend : ∀ c ∈ ([] : List Char).head?,
      Text.isSeparator c ∨ c = '(' ∨ c = ')' ∨ Operator.isStart c := nofun
  have hvalue (path : String) {steps : List Bracket} {d : Document}
      (haddress : Path.address '$' steps = path) (h : scope.document.Reaches steps d) :
      ∃ value, scope.resolve path = .ok value ∧ d.StandsFor value :=
    haddress ▸ (Scope.resolve_address h hroot hend).2.2
  have haddress : Path.address '$' (steps 1) = "$['it\\'s'][1]" := by decide +kernel
  have hbehind : ∀ c ∈ ['!'].head?,
      Text.isSeparator c ∨ c = '(' ∨ c = ')' ∨ Operator.isStart c := by
    rintro _ ⟨⟩
    decide
  have hboolean := hreaches (by decide) (rfl : items[1]? = some (.boolean true))
  obtain ⟨hread, hparse, _, hb, ⟨_⟩⟩ := Scope.resolve_address hboolean hroot hbehind
  rw [haddress] at hread hparse hb
  have hlength : 0 + Text.byteLength "$['it\\'s'][1]".toList = 13 := by decide
  have hrest : Lexer.tokensFrom false 13 ['!'] = .ok [⟨.operator (.unary .not), 13⟩] :=
    Lexer.tokensFrom_eq_cons rfl rfl (Lexer.tokensFrom_of_dropWhile_eq_nil rfl)
  have htokens := hread true 0
  rw [hlength, hrest] at htokens
  obtain ⟨_, hnull, ⟨⟩⟩ :=
    hvalue "$['it\\'s'][0]" (by decide +kernel) (hreaches (n := 0) (by decide) rfl)
  obtain ⟨_, hnumber, ⟨_⟩⟩ :=
    hvalue "$['it\\'s'][2]" (by decide +kernel) (hreaches (n := 2) (by decide) rfl)
  obtain ⟨_, hstring, ⟨_⟩⟩ :=
    hvalue "$['it\\'s'][3]" (by decide +kernel) (hreaches (n := 3) (by decide) rfl)
  obtain ⟨_, harray, ⟨_⟩⟩ :=
    hvalue "$['it\\'s'][4]" (by decide +kernel) (hreaches (n := 4) (by decide) rfl)
  obtain ⟨_, hobject, ⟨_⟩⟩ :=
    hvalue "$['it\\'s'][5]" (by decide +kernel) (hreaches (n := 5) (by decide) rfl)
  obtain ⟨_, hinner, ⟨⟩⟩ := hvalue "$['it\\'s'][5]['a']" (by decide +kernel) hmember
  exact ⟨hboolean, haddress, htokens, hparse, hnull, hb, hnumber, hstring, harray, hobject,
    hinner⟩

end ScalarExpr

import ScalarExpr.Text.Basic
/-!
# The octets of a text

Each byte of the UTF-8 form of a text is taken for the character with its number, an
octet. So what reads characters reads bytes as well. A character of ASCII is its own
octet, and any other one has octets that are past ASCII. What tells no two characters
past ASCII apart cuts the octets of a text where it cuts the text.

## Main definitions

- `Text.IsHigh` — a character past ASCII
- `Text.octets` — the octets of a text
- `Text.unoctets` — the bytes that octets stand for

## Main statements

- `Text.octets_cons`, `Text.isHigh_of_mem_octets`: the octets of a character of ASCII, and
  those of any other one
- `Text.length_octets`: their number is the size of the text
- `Text.takeWhile_octets`, `Text.dropWhile_octets`, `Text.isPrefixOf?_octets`: cuts of a
  text and of its octets
-/

namespace ScalarExpr

namespace Text

/-- A character past ASCII. -/
def IsHigh (c : Char) : Prop := 0x80 ≤ c.toNat

instance : DecidablePred IsHigh := fun c => Nat.decLe 0x80 c.toNat

/-- The UTF-8 form of a text, each byte as a character. -/
def octets (cs : List Char) : List Char := (bytes cs).map Char.ofUInt8

/-- The bytes that octets stand for. -/
def unoctets (cs : List Char) : List UInt8 := cs.map Char.toUInt8

variable {c d : Char} {cs : List Char}

-- ════════════════════════════════════════════════════════════════════════
-- The octets of a character
-- ════════════════════════════════════════════════════════════════════════

theorem IsHigh.ne (hc : IsHigh c) (hd : ¬ IsHigh d) : c ≠ d := by
  rintro rfl
  exact hd hc

theorem IsHigh.not_isAsciiBlank (h : IsHigh c) : ¬ isAsciiBlank c := by
  simp [isAsciiBlank, h.ne (d := ' ') (by decide), h.ne (d := '\t') (by decide),
    h.ne (d := '\n') (by decide), h.ne (d := '\x0c') (by decide), h.ne (d := '\r') (by decide)]

theorem IsHigh.not_isSeparator (h : IsHigh c) : ¬ isSeparator c := by
  simp [isSeparator, h.not_isAsciiBlank, h.ne (d := ',') (by decide)]

@[simp] theorem octets_nil : octets [] = [] := rfl

@[simp] theorem octets_append (front behind : List Char) :
    octets (front ++ behind) = octets front ++ octets behind := by
  simp only [octets, bytes, List.flatMap_append, List.map_append]

theorem octets_singleton (c : Char) :
    octets [c] = (String.utf8EncodeChar c).map Char.ofUInt8 := by
  rw [octets, bytes, List.flatMap_singleton]

theorem length_octets (cs : List Char) : (octets cs).length = byteLength cs := by
  induction cs with
  | nil => rfl
  | cons c cs ih =>
    rw [← List.singleton_append, octets_append, List.length_append, ih, octets_singleton,
      List.length_map, String.length_utf8EncodeChar]
    rfl

theorem toUInt8_ofUInt8 (b : UInt8) : (Char.ofUInt8 b).toUInt8 = b := UInt8.toUInt8_toUInt32 b

theorem unoctets_octets (cs : List Char) : unoctets (octets cs) = bytes cs := by
  have hinverse : Char.toUInt8 ∘ Char.ofUInt8 = id := by
    funext b
    exact toUInt8_ofUInt8 b
  rw [unoctets, octets, List.map_map, hinverse, List.map_id]

theorem toNat_octet {n : Nat} (h : n < 0x100) : (Char.ofUInt8 (UInt8.ofNat n)).toNat = n :=
  UInt8.toNat_ofNat_of_lt' h

theorem ofUInt8_toUInt8 (h : ¬ IsHigh c) : Char.ofUInt8 c.toUInt8 = c := by
  have hsize : c.toNat < 0x100 := Nat.lt_trans (Nat.lt_of_not_ge h) (by decide)
  exact Char.toNat_inj.1 (toNat_octet hsize)

theorem isHigh_octet {n : Nat} (hlow : 0x80 ≤ n) (h : n < 0x100) :
    IsHigh (Char.ofUInt8 (UInt8.ofNat n)) := by
  rw [IsHigh, toNat_octet h]
  exact hlow

/-- A character of ASCII is its own octet. -/
theorem octets_cons (h : ¬ IsHigh c) (cs : List Char) : octets (c :: cs) = c :: octets cs := by
  have hsize : c.val.toNat ≤ 127 := Nat.le_of_lt_succ (Nat.lt_of_not_ge h)
  have hoctet : Char.ofUInt8 (UInt8.ofNat c.val.toNat) = c := ofUInt8_toUInt8 h
  rw [← List.singleton_append, octets_append, octets_singleton, String.utf8EncodeChar,
    if_pos hsize, List.map_singleton, hoctet, List.singleton_append]

theorem isHigh_of_mem_octets (h : IsHigh c) : ∀ b ∈ octets [c], IsHigh b := by
  have hsize : ¬ c.val.toNat ≤ 127 := Nat.not_le_of_lt h
  rw [octets_singleton, List.forall_mem_map, String.utf8EncodeChar, if_neg hsize]
  -- the highest bit of each byte is set
  split
  · simp only [List.forall_mem_cons]
    exact ⟨isHigh_octet (by omega) (by omega), isHigh_octet (by omega) (by omega), nofun⟩
  split
  · simp only [List.forall_mem_cons]
    exact ⟨isHigh_octet (by omega) (by omega), isHigh_octet (by omega) (by omega),
      isHigh_octet (by omega) (by omega), nofun⟩
  · simp only [List.forall_mem_cons]
    exact ⟨isHigh_octet (by omega) (by omega), isHigh_octet (by omega) (by omega),
      isHigh_octet (by omega) (by omega), isHigh_octet (by omega) (by omega), nofun⟩

/-- An octet of a character is the character, or both are past ASCII. -/
theorem eq_or_isHigh_of_mem_octets (h : d ∈ octets [c]) : d = c ∨ IsHigh d ∧ IsHigh c := by
  by_cases hc : IsHigh c
  · exact .inr ⟨isHigh_of_mem_octets hc d h, hc⟩
  · rw [octets_cons hc, octets_nil] at h
    exact .inl (List.mem_singleton.1 h)

theorem ne_of_mem_octets {b : Char} (hd : ¬ IsHigh d) (hcd : c ≠ d) (h : b ∈ octets [c]) :
    b ≠ d := by
  rcases eq_or_isHigh_of_mem_octets h with rfl | ⟨hb, _⟩
  · exact hcd
  · exact hb.ne hd

theorem octets_cons_eq_append (c : Char) (cs : List Char) :
    octets (c :: cs) = octets [c] ++ octets cs := by
  rw [← octets_append, List.singleton_append]

/-- The first octet is the character, or both are past ASCII; the others are past ASCII. -/
theorem exists_octets_eq_cons (c : Char) :
    ∃ b high, octets [c] = b :: high ∧ (b = c ∨ IsHigh b ∧ IsHigh c) ∧ ∀ d ∈ high, IsHigh d := by
  by_cases hc : IsHigh c
  · have hall := isHigh_of_mem_octets hc
    have hlength : 0 < (octets [c]).length := by
      rw [length_octets]
      exact c.utf8Size_pos
    obtain ⟨b, high, hoctets⟩ := List.exists_cons_of_length_pos hlength
    rw [hoctets, List.forall_mem_cons] at hall
    exact ⟨b, high, hoctets, .inr ⟨hall.1, hc⟩, hall.2⟩
  · exact ⟨c, [], octets_cons hc [], .inl rfl, List.forall_mem_nil _⟩

/-- A text and its octets start alike, or both start past ASCII. -/
theorem exists_head_octets (c : Char) (cs : List Char) :
    ∃ b tail, octets (c :: cs) = b :: tail ∧ (b = c ∨ IsHigh b ∧ IsHigh c) := by
  obtain ⟨b, high, hoctets, hb, _⟩ := exists_octets_eq_cons c
  exact ⟨b, high ++ octets cs, by rw [octets_cons_eq_append, hoctets, List.cons_append], hb⟩

theorem IsHigh.exists_head_octets (h : IsHigh c) (cs : List Char) :
    ∃ b tail, octets (c :: cs) = b :: tail ∧ IsHigh b := by
  obtain ⟨b, tail, hoctets, rfl | ⟨hb, _⟩⟩ := Text.exists_head_octets c cs
  · exact ⟨b, tail, hoctets, h⟩
  · exact ⟨b, tail, hoctets, hb⟩

/-- Where a character starts stands its first octet. -/
theorem getElem?_octets_append (front behind : List Char) :
    (octets (front ++ behind))[byteLength front]? = (octets behind).head? := by
  rw [octets_append, List.getElem?_append_right (Nat.le_of_eq (length_octets front)),
    length_octets, Nat.sub_self, List.head?_eq_getElem?]

theorem octets_eq_self (h : ∀ c ∈ cs, ¬ IsHigh c) : octets cs = cs := by
  induction cs with
  | nil => rfl
  | cons c cs ih =>
    obtain ⟨hc, hcs⟩ := List.forall_mem_cons.1 h
    rw [octets_cons hc, ih hcs]

-- ════════════════════════════════════════════════════════════════════════
-- Cuts
-- ════════════════════════════════════════════════════════════════════════

/-- A condition that tells no two characters past ASCII apart. -/
def SameOnHigh (p : Char → Bool) : Prop := ∀ c d, IsHigh c → IsHigh d → p c = p d

variable {p : Char → Bool}

theorem SameOnHigh.octet_eq (hp : SameOnHigh p) : ∀ b ∈ octets [c], p b = p c := by
  intro b hb
  rcases eq_or_isHigh_of_mem_octets hb with rfl | ⟨hb, hc⟩
  · rfl
  · exact hp b c hb hc

/-- The octets of a character that meets the condition all meet it; of any other character,
    the first one does not. -/
theorem SameOnHigh.octets_cases (hp : SameOnHigh p) (c : Char) :
    (p c ∧ ∀ b ∈ octets [c], p b) ∨ (¬ p c ∧ ∃ b high, octets [c] = b :: high ∧ ¬ p b) := by
  have hoctet := hp.octet_eq (c := c)
  obtain ⟨b, high, hoctets, _⟩ := exists_octets_eq_cons c
  by_cases hc : p c
  · exact .inl ⟨hc, fun b hb => (hoctet b hb).trans hc⟩
  · have hb := hoctet b (hoctets ▸ List.mem_cons_self)
    exact .inr ⟨hc, b, high, hoctets, by rwa [hb]⟩

/-- What tells no two characters past ASCII apart holds of no octet of a text exactly if it
    holds of no character. -/
theorem SameOnHigh.forall_octets_iff (hp : SameOnHigh p) (cs : List Char) :
    (∀ d ∈ octets cs, ¬ p d) ↔ ∀ c ∈ cs, ¬ p c := by
  induction cs with
  | nil => simp
  | cons c cs ih =>
    rw [octets_cons_eq_append, List.forall_mem_append, ih, List.forall_mem_cons]
    refine and_congr_left fun _ => ?_
    obtain ⟨d, high, hoctets, -⟩ := exists_octets_eq_cons c
    have hd : d ∈ octets [c] := hoctets ▸ List.mem_cons_self
    constructor
    · intro h hc
      exact h d hd ((hp.octet_eq d hd).trans hc)
    · intro hc d hd
      rwa [hp.octet_eq d hd]

theorem takeWhile_octets (hp : SameOnHigh p) (cs : List Char) :
    (octets cs).takeWhile p = octets (cs.takeWhile p) := by
  induction cs with
  | nil => rfl
  | cons c cs ih =>
    rw [octets_cons_eq_append]
    rcases hp.octets_cases c with ⟨hc, hall⟩ | ⟨hc, b, high, hoctets, hb⟩
    · rw [List.takeWhile_append_of_pos hall, ih, List.takeWhile_cons_of_pos hc,
        octets_cons_eq_append c (cs.takeWhile p)]
    · rw [hoctets, List.cons_append, List.takeWhile_cons_of_neg hb, List.takeWhile_cons_of_neg hc,
        octets_nil]

theorem dropWhile_octets (hp : SameOnHigh p) (cs : List Char) :
    (octets cs).dropWhile p = octets (cs.dropWhile p) := by
  induction cs with
  | nil => rfl
  | cons c cs ih =>
    rw [octets_cons_eq_append]
    rcases hp.octets_cases c with ⟨hc, hall⟩ | ⟨hc, b, high, hoctets, hb⟩
    · rw [List.dropWhile_append_of_pos hall, ih, List.dropWhile_cons_of_pos hc]
    · rw [hoctets, List.cons_append, List.dropWhile_cons_of_neg hb, List.dropWhile_cons_of_neg hc,
        ← List.cons_append, ← hoctets, ← octets_cons_eq_append]

theorem isPrefixOf?_cons_cons (d c : Char) (word cs : List Char) :
    (d :: word).isPrefixOf? (c :: cs) = if d == c then word.isPrefixOf? cs else none := rfl

/-- The octets of a text start with a word of ASCII where the text does. -/
theorem isPrefixOf?_octets {word : List Char} (hword : ∀ c ∈ word, ¬ IsHigh c) (cs : List Char) :
    word.isPrefixOf? (octets cs) = (word.isPrefixOf? cs).map octets := by
  induction word generalizing cs with
  | nil => rfl
  | cons d word ih =>
    obtain ⟨hd, hword⟩ := List.forall_mem_cons.1 hword
    cases cs with
    | nil => rfl
    | cons c cs =>
      by_cases hdc : d = c
      · subst hdc
        rw [octets_cons hd, isPrefixOf?_cons_cons, isPrefixOf?_cons_cons, if_pos (beq_self_eq_true d),
          if_pos (beq_self_eq_true d), ih hword]
      · obtain ⟨b, tail, hoctets, hb⟩ := exists_head_octets c cs
        have hdb : d ≠ b := by
          rcases hb with rfl | ⟨hb, _⟩
          · exact hdc
          · exact (hb.ne hd).symm
        rw [hoctets, isPrefixOf?_cons_cons, isPrefixOf?_cons_cons, if_neg (by simpa using hdb),
          if_neg (by simpa using hdc), Option.map_none]

end Text

end ScalarExpr

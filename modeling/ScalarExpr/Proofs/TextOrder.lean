import ScalarExpr.Text.Basic
/-!
# The order of texts

Texts are ordered by the bytes of their UTF-8 form. The octets of a character are the digits
of its code point to base 64, from the highest one down, and the first of them tells how many
there are. So the order by bytes is the lexicographic order by code points.

## Main definitions

- `Text.Encodes` — the octets of a code point

## Main statements

- `Text.Encodes.compare_append`: two texts that start with different characters are ordered
  like the code points of these
- `Text.order_eq_compare`: the order of texts is the lexicographic one of their code points
-/

namespace ScalarExpr

namespace Text

/-- The octets of a code point: its digits to base 64, with a mark on the first that tells
    how many there are, and another one on each that follows. -/
inductive Encodes : Nat → List Nat → Prop where
  | one {v : Nat} (h : v < 0x80) : Encodes v [v]
  | two {v : Nat} (hlow : 0x80 ≤ v) (hhigh : v < 0x800) :
    Encodes v [v / 64 + 192, v % 64 + 128]
  | three {v : Nat} (hlow : 0x800 ≤ v) (hhigh : v < 0x10000) :
    Encodes v [v / 64 / 64 + 224, v / 64 % 64 + 128, v % 64 + 128]
  | four {v : Nat} (hlow : 0x10000 ≤ v) (hhigh : v < 0x110000) :
    Encodes v [v / 64 / 64 / 64 + 240, v / 64 / 64 % 64 + 128, v / 64 % 64 + 128, v % 64 + 128]

variable {v w x y : Nat} {xs ys : List Nat}

theorem encodes_utf8EncodeChar (c : Char) :
    Encodes c.toNat ((String.utf8EncodeChar c).map UInt8.toNat) := by
  have hvalid : c.val.toNat < 0x110000 := by
    rcases c.valid with h | ⟨_, h⟩
    · exact Nat.lt_trans h (by decide)
    · exact h
  change Encodes c.val.toNat _
  rw [String.utf8EncodeChar]
  generalize c.val.toNat = v at hvalid
  have hsquare : v / 4096 = v / 64 / 64 := (Nat.div_div_eq_div_mul v 64 64).symm
  have hcube : v / 262144 = v / 64 / 64 / 64 := by
    rw [← hsquare, Nat.div_div_eq_div_mul]
  rw [hsquare, hcube]
  split
  · simp (disch := omega) only [List.map_cons, List.map_nil, UInt8.toNat_ofNat',
      Nat.mod_eq_of_lt]
    exact .one (by omega)
  split
  · simp (disch := omega) only [List.map_cons, List.map_nil, UInt8.toNat_ofNat',
      Nat.mod_eq_of_lt]
    exact .two (by omega) (by omega)
  split
  · simp (disch := omega) only [List.map_cons, List.map_nil, UInt8.toNat_ofNat',
      Nat.mod_eq_of_lt]
    exact .three (by omega) (by omega)
  · simp (disch := omega) only [List.map_cons, List.map_nil, UInt8.toNat_ofNat',
      Nat.mod_eq_of_lt]
    exact .four (by omega) hvalid

theorem Encodes.exists_eq_cons (h : Encodes v xs) : ∃ x tail, xs = x :: tail := by
  cases h <;> exact ⟨_, _, rfl⟩

theorem compare_add_right (m n k : Nat) : compare (m + k) (n + k) = compare m n := by
  simp only [Nat.compare_eq_ite_lt, Nat.add_lt_add_iff_right]

/-- Numbers are ordered by their quotients, and then by their remainders. -/
theorem compare_div_mod (b m n : Nat) :
    (compare (m / b) (n / b)).then (compare (m % b) (n % b)) = compare m n := by
  cases hquot : compare (m / b) (n / b) with
  | lt =>
    have hlt := Nat.lt_of_div_lt_div (Nat.compare_eq_lt.1 hquot)
    exact (Nat.compare_eq_lt.2 hlt).symm
  | gt =>
    have hlt := Nat.lt_of_div_lt_div (Nat.compare_eq_gt.1 hquot)
    exact (Nat.compare_eq_gt.2 hlt).symm
  | eq =>
    calc compare (m % b) (n % b)
        = compare (m % b + b * (m / b)) (n % b + b * (m / b)) := (compare_add_right ..).symm
      _ = compare m n := by
        rw [Nat.mod_add_div, Nat.compare_eq_eq.1 hquot, Nat.mod_add_div]

theorem compare_cons_of_lt (hxy : x < y) (hvw : v < w) (o : Ordering) :
    compare (x :: xs) (y :: ys) = (compare v w).then o := by
  rw [List.compare_cons_cons, Nat.compare_eq_lt.2 hxy, Nat.compare_eq_lt.2 hvw]
  rfl

theorem compare_cons_of_gt (hxy : y < x) (hvw : w < v) (o : Ordering) :
    compare (x :: xs) (y :: ys) = (compare v w).then o := by
  rw [List.compare_cons_cons, Nat.compare_eq_gt.2 hxy, Nat.compare_eq_gt.2 hvw]
  rfl

theorem compare_cons_add (m n k : Nat) (xs ys : List Nat) :
    compare ((m + k) :: xs) ((n + k) :: ys) = (compare m n).then (compare xs ys) := by
  rw [List.compare_cons_cons, compare_add_right]

/-- Two texts are ordered by the code points that they start with, and then by the rest. -/
theorem Encodes.compare_append (hv : Encodes v xs) (hw : Encodes w ys) (s t : List Nat) :
    compare (xs ++ s) (ys ++ t) = (compare v w).then (compare s t) := by
  cases hv with
  | one =>
    cases hw with
    | one => exact List.compare_cons_cons
    | two | three | four => exact compare_cons_of_lt (by omega) (by omega) _
  | two =>
    cases hw with
    | one => exact compare_cons_of_gt (by omega) (by omega) _
    | two =>
      simp only [List.cons_append, List.nil_append, compare_cons_add, ← Ordering.then_assoc,
        compare_div_mod]
    | three | four => exact compare_cons_of_lt (by omega) (by omega) _
  | three =>
    cases hw with
    | one | two => exact compare_cons_of_gt (by omega) (by omega) _
    | three =>
      simp only [List.cons_append, List.nil_append, compare_cons_add, ← Ordering.then_assoc,
        compare_div_mod]
    | four => exact compare_cons_of_lt (by omega) (by omega) _
  | four =>
    cases hw with
    | one | two | three => exact compare_cons_of_gt (by omega) (by omega) _
    | four =>
      simp only [List.cons_append, List.nil_append, compare_cons_add, ← Ordering.then_assoc,
        compare_div_mod]

theorem compare_toNat (a b : UInt8) : compare a.toNat b.toNat = compare a b := by
  change compareOfLessAndEq a.toNat b.toNat = compareOfLessAndEq a b
  simp only [compareOfLessAndEq, UInt8.lt_iff_toNat_lt, UInt8.toNat_inj]

theorem compare_map_toNat (a b : List UInt8) :
    compare (a.map UInt8.toNat) (b.map UInt8.toNat) = compare a b := by
  induction a generalizing b with
  | nil => cases b <;> rfl
  | cons x a ih =>
    cases b with
    | nil => rfl
    | cons y b =>
      simp only [List.map_cons, List.compare_cons_cons, compare_toNat, ih]

theorem bytes_cons (c : Char) (cs : List Char) :
    bytes (c :: cs) = String.utf8EncodeChar c ++ bytes cs := List.flatMap_cons

/-- The order of texts by their bytes is the lexicographic order by code points. -/
theorem order_eq_compare (a b : List Char) :
    order a b = compare (a.map Char.toNat) (b.map Char.toNat) := by
  rw [order, ← compare_map_toNat]
  induction a generalizing b with
  | nil =>
    cases b with
    | nil => rfl
    | cons d b =>
      obtain ⟨x, tail, hd⟩ := (encodes_utf8EncodeChar d).exists_eq_cons
      rw [bytes_cons, List.map_append, hd]
      rfl
  | cons c a ih =>
    have hc := encodes_utf8EncodeChar c
    cases b with
    | nil =>
      obtain ⟨x, tail, hx⟩ := hc.exists_eq_cons
      rw [bytes_cons, List.map_append, hx]
      rfl
    | cons d b =>
      rw [bytes_cons, bytes_cons, List.map_append, List.map_append,
        hc.compare_append (encodes_utf8EncodeChar d), ih, List.map_cons, List.map_cons,
        List.compare_cons_cons]

theorem order_swap (a b : List Char) : order b a = (order a b).swap :=
  Std.OrientedOrd.eq_swap

theorem order_eq_eq_iff (a b : List Char) : order a b = .eq ↔ a = b := by
  rw [order_eq_compare, Std.LawfulEqOrd.compare_eq_iff_eq]
  exact List.map_inj_right fun _ _ => Char.toNat_inj.1

theorem order_trans {a b c : List Char} (hab : order a b = .lt) (hbc : order b c = .lt) :
    order a c = .lt := by
  rw [order] at hab hbc ⊢
  exact Std.TransCmp.lt_trans hab hbc

end Text

end ScalarExpr

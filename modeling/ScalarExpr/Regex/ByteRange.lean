import ScalarExpr.Unicode.Ranges
/-!
# Characters by their bytes

The characters of a range are spelled in UTF-8 by sequences of byte ranges:
such a sequence stands for every choice of one byte from each of its ranges.

## Main definitions

- `Regex.ByteRange` — the bytes from one to another
- `Regex.spellings` — the sequences for a range of code points, in order
- `Regex.literalBytes` — the bytes of a text

## Design notes

A sequence spells a range only if, behind the first byte in which the ends of
the range differ, one end has all the least bytes and the other all the
greatest. So a range is cut where the number of bytes changes, at the
surrogates, and then at the blocks of code points that share their first bytes.
-/

namespace ScalarExpr

namespace Regex

open Unicode (CodeRange Ranges)

/-- The bytes from `first` to `last`, both included. -/
structure ByteRange where
  first : UInt8
  last : UInt8
deriving DecidableEq

/-- The bytes of a text. -/
def literalBytes (text : List Char) : List UInt8 := text.flatMap String.utf8EncodeChar

/-- The code points that take equally many bytes, the surrogates left out. -/
def equallyLong : Ranges :=
  [⟨0, 0x7F⟩, ⟨0x80, 0x7FF⟩, ⟨0x800, 0xD7FF⟩, ⟨0xE000, 0xFFFF⟩, ⟨0x10000, 0x10FFFF⟩]

/-- The code points of `r` that take equally many bytes, for each number of
    bytes that occurs. -/
def cutByLength (r : CodeRange) : Ranges := equallyLong.filterMap r.overlap?

/-- Cut a range at blocks of `size` code points: what fills no block at either
    end is split off, and the rest is cut at blocks 64 times as large, for as
    many sizes as there are levels. A block of 64 code points shares all bytes
    but the last, and so on. -/
def cutAtBlocks : (levels size : Nat) → CodeRange → Ranges
  | 0, _, r => [r]
  | levels + 1, size, r =>
    if r.first / size = r.last / size then
      [r]
    else
      -- the first and the last code point of the blocks that are filled, the latter plus one
      let first := (r.first + size - 1) / size * size
      let stop := (r.last + 1) / size * size
      (if r.first < first then [⟨r.first, first - 1⟩] else []) ++
        (if first < stop then cutAtBlocks levels (size * 64) ⟨first, stop - 1⟩ else []) ++
        (if stop ≤ r.last then [⟨stop, r.last⟩] else [])

/-- The byte ranges between the bytes of two code points. -/
def spelling (r : CodeRange) : List ByteRange :=
  List.zipWith ByteRange.mk (String.utf8EncodeChar (Char.ofNat r.first))
    (String.utf8EncodeChar (Char.ofNat r.last))

/-- The sequences of byte ranges that spell the characters of a range. There is a
    size of blocks for each byte behind the first. -/
def spellings (r : CodeRange) : List (List ByteRange) :=
  (cutByLength r).flatMap fun s =>
    (cutAtBlocks ((Char.ofNat s.first).utf8Size - 1) 64 s).map spelling

end Regex

end ScalarExpr

import HookGraft.Unicode.RangeTable

/-!
# The bytes of a range

The characters of a range, encoded in UTF-8, are all that can be formed by taking one byte from each
range of a sequence, for a few sequences of byte ranges.

## Main definitions

* `ByteSequence`: ranges from which the bytes of a character are taken in turn
* `byteSequences`: the sequences for a range of code points
-/

namespace HookGraft.Unicode

/-- Ranges from which the bytes of a character are taken in turn. -/
abbrev ByteSequence := List (Nat × Nat)

/-- The code points, surrogates aside, by the number of bytes of their encoding. -/
def codeSpans : RangeTable :=
  [(0x0, 0x7f), (0x80, 0x7ff), (0x800, 0xd7ff), (0xe000, 0xffff), (0x10000, lastCode)]

/-- Cuts a range where it enters and where it leaves whole blocks of the given sizes, each of which
divides the next. -/
def cutAtBlocks : (sizes : List Nat) → (low high : Nat) → List (Nat × Nat)
  | [], low, high => [(low, high)]
  | size :: sizes, low, high =>
    if low / size = high / size then [(low, high)]
    else
      let first := (low + size - 1) / size * size
      let last := (high + 1) / size * size
      (if low < first then [(low, first - 1)] else [])
        ++ (if first < last then cutAtBlocks sizes first (last - 1) else [])
        ++ (if last ≤ high then [(last, high)] else [])

/-- The bytes that encode a code point. -/
def encode (n : Nat) : List Nat := (String.utf8EncodeChar (Char.ofNat n)).map (·.toNat)

/-- The sequences for the code points from `low` to `high`, in increasing order. A byte behind the
first one holds six bits, so a range has a sequence of its own where it ends within a block of
2^6, 2^12 or 2^18 code points. -/
def byteSequences (low high : Nat) : List ByteSequence :=
  codeSpans.flatMap fun (first, last) =>
    let low := max low first
    let high := min high last
    if high < low then []
    else if high < 0x80 then [[(low, high)]]
    else (cutAtBlocks [0x40, 0x1000, 0x40000] low high).map fun (low, high) =>
      (encode low).zip (encode high)

end HookGraft.Unicode

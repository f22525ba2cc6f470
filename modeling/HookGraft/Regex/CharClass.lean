import HookGraft.Unicode.Classes
import HookGraft.Unicode.CaseFolding

/-!
# Classes of characters in a pattern

A pattern describes single characters by classes, built from characters, ranges and the Unicode
classes by union, complement and disregard of case. A class is held as the ranges it consists of,
so two descriptions of one set of characters are the same class.

## Main definitions

* `CharClass`: sets of characters
* `CharClass.contains`: membership
* `CharClass.union`, `CharClass.complement`, `CharClass.intersection`, `CharClass.difference`,
  `CharClass.symmetricDifference`: classes made from others
* `CharClass.named?`: the classes that have names
* `CharClass.member?`: the only character of a class
-/

namespace HookGraft

open Unicode

/-- A set of characters. -/
structure CharClass where
  ranges : RangeTable
  deriving DecidableEq

namespace CharClass

/-- Membership of a character. -/
def contains (k : CharClass) (c : Char) : Bool := k.ranges.contains c

/-- No character. -/
def nothing : CharClass := ⟨[]⟩

/-- Every character. -/
def anything : CharClass := ⟨[(0, lastCode)]⟩

/-- The characters from `low` to `high`. -/
def range (low high : Char) : CharClass := ⟨[(low.toNat, high.toNat)]⟩

/-- A single character. -/
def one (c : Char) : CharClass := range c c

/-- Decimal digits of all scripts. -/
def digit : CharClass := ⟨decimalDigitRanges⟩

/-- The characters that may stand in a word. -/
def word : CharClass := ⟨wordRanges⟩

/-- White space. -/
def space : CharClass := ⟨spaceRanges⟩

/-- Whether all characters of a class are ASCII. -/
def isAscii (k : CharClass) : Bool := k.ranges.all (·.2 < 0x80)

/-- Decimal digits in ASCII. -/
def asciiDigit : CharClass := ⟨[(0x30, 0x39)]⟩

/-- The characters that may stand in a word in ASCII. -/
def asciiWord : CharClass := ⟨[(0x30, 0x39), (0x41, 0x5a), (0x5f, 0x5f), (0x61, 0x7a)]⟩

/-- White space in ASCII. -/
def asciiSpace : CharClass := ⟨[(0x9, 0xd), (0x20, 0x20)]⟩

/-- The classes that have names, all of them ASCII. -/
def named? (name : String) : Option CharClass :=
  match name with
  | "alnum" => some ⟨[(0x30, 0x39), (0x41, 0x5a), (0x61, 0x7a)]⟩
  | "alpha" => some ⟨[(0x41, 0x5a), (0x61, 0x7a)]⟩
  | "ascii" => some ⟨[(0x0, 0x7f)]⟩
  | "blank" => some ⟨[(0x9, 0x9), (0x20, 0x20)]⟩
  | "cntrl" => some ⟨[(0x0, 0x1f), (0x7f, 0x7f)]⟩
  | "digit" => some asciiDigit
  | "graph" => some ⟨[(0x21, 0x7e)]⟩
  | "lower" => some ⟨[(0x61, 0x7a)]⟩
  | "print" => some ⟨[(0x20, 0x7e)]⟩
  | "punct" => some ⟨[(0x21, 0x2f), (0x3a, 0x40), (0x5b, 0x60), (0x7b, 0x7e)]⟩
  | "space" => some asciiSpace
  | "upper" => some ⟨[(0x41, 0x5a)]⟩
  | "word" => some asciiWord
  | "xdigit" => some ⟨[(0x30, 0x39), (0x41, 0x46), (0x61, 0x66)]⟩
  | _ => none

/-- The characters of either class. -/
def union (a b : CharClass) : CharClass := ⟨a.ranges.union b.ranges⟩

/-- The characters that a class lacks. -/
def complement (k : CharClass) : CharClass := ⟨k.ranges.complement⟩

/-- The characters of both classes. -/
def intersection (a b : CharClass) : CharClass := ⟨a.ranges.intersection b.ranges⟩

/-- The characters of the first class that the second one lacks. -/
def difference (a b : CharClass) : CharClass := ⟨a.ranges.difference b.ranges⟩

/-- The characters of one class that the other one lacks. -/
def symmetricDifference (a b : CharClass) : CharClass :=
  difference (union a b) (intersection a b)

/-- The characters of a class, and all that differ from one of them only by case. -/
def caseless (k : CharClass) : CharClass := ⟨k.ranges.withVariants⟩

/-- The same if only the letters from A to Z have a case. -/
def asciiCaseless (k : CharClass) : CharClass := ⟨k.ranges.withAsciiVariants⟩

/-- Every character but the line feed. -/
def inLine : CharClass := complement (one '\n')

/-- Every character but the line feed and the carriage return. -/
def inCarriedLine : CharClass := complement (union (one '\n') (one '\r'))

/-- The only character of a class, if there is just one. -/
def member? (k : CharClass) : Option Char :=
  match k.ranges with
  | [(low, high)] => if low = high then some (Char.ofNat low) else none
  | _ => none

theorem contains_range (low high c : Char) :
    (range low high).contains c = (low ≤ c && c ≤ high) := by
  simp only [contains, range, RangeTable.contains, RangeTable.containsCode, Char.le_def,
    UInt32.le_iff_toNat_le, ← Char.toNat_val]
  grind

end CharClass

end HookGraft

/-!
# Tables of code point ranges

A Unicode property is held as an ordered list of closed ranges of code points.

## Main definitions

* `RangeTable`: closed ranges, in increasing order and without overlap
* `RangeTable.contains`: membership of a character
* `RangeTable.insert`, `RangeTable.union`, `RangeTable.complement`: tables made from others
* `RangeTable.intersection`, `RangeTable.difference`: what two tables share, and what one lacks
-/

namespace HookGraft.Unicode

/-- Closed ranges of code points, in increasing order and without overlap. -/
abbrev RangeTable := List (Nat × Nat)

/-- The greatest code point. -/
def lastCode : Nat := 0x10ffff

/-- The code point of the next character. No character is a surrogate. -/
def nextCode (n : Nat) : Nat := if n = 0xd7ff then 0xe000 else n + 1

/-- The code point of the character before. -/
def previousCode (n : Nat) : Nat := if n = 0xe000 then 0xd7ff else n - 1

namespace RangeTable

/-- Membership of a code point. The search ends at the first range that lies beyond it. -/
def containsCode : RangeTable → Nat → Bool
  | [], _ => false
  | (low, high) :: rest, n => if n < low then false else n ≤ high || containsCode rest n

/-- Membership of a character. -/
def contains (table : RangeTable) (c : Char) : Bool :=
  table.containsCode c.toNat

/-- Adds the code points from `low` to `high`. Ranges that then touch or overlap become one. -/
def insert (low high : Nat) : RangeTable → RangeTable
  | [] => [(low, high)]
  | (a, b) :: rest =>
    if high + 1 < a then (low, high) :: (a, b) :: rest
    else if b + 1 < low then (a, b) :: insert low high rest
    else insert (min low a) (max high b) rest

/-- The code points of two tables. -/
def union (s t : RangeTable) : RangeTable :=
  t.foldl (fun table (low, high) => table.insert low high) s

/-- The ranges behind each range of a table, up to the next one or to the greatest code point. If
nothing but the surrogates lies between two ranges, the characters on either side take its place. -/
def gaps : RangeTable → RangeTable
  | [] => []
  | [(_, high)] => if high < lastCode then [(nextCode high, lastCode)] else []
  | (_, high) :: (low, next) :: rest =>
    let first := nextCode high
    let last := previousCode low
    (min first last, max first last) :: gaps ((low, next) :: rest)

/-- The ranges between those of a table. -/
def complement : RangeTable → RangeTable
  | [] => [(0, lastCode)]
  | (low, high) :: rest =>
    let behind := gaps ((low, high) :: rest)
    if low = 0 then behind else (0, previousCode low) :: behind

/-- The code points that are in both tables. -/
def intersection (s t : RangeTable) : RangeTable :=
  s.flatMap fun (a, b) => t.filterMap fun (low, high) =>
    if max a low ≤ min b high then some (max a low, min b high) else none

/-- Takes the code points from `low` to `high` out of a table. -/
def erase (low high : Nat) (s : RangeTable) : RangeTable :=
  s.flatMap fun (a, b) =>
    if high < a ∨ b < low then [(a, b)]
    else
      (if a < low then [(a, previousCode low)] else [])
        ++ (if high < b then [(nextCode high, b)] else [])

/-- The code points of a table that another one lacks. -/
def difference (s t : RangeTable) : RangeTable :=
  t.foldl (fun table (low, high) => table.erase low high) s

end RangeTable

end HookGraft.Unicode

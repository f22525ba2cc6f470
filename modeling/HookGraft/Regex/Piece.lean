import HookGraft.Regex.Building

/-!
# Pieces of patterns

A piece of a pattern stands for a term, and its parts may be nested up to a limit. Sequences and
choices count as a level of their own if they have several parts.

## Main definitions

* `Piece`: a term, with the depth to which the pattern nests it
* `Piece.sequence`, `Piece.choice`, `Piece.group`, `Piece.repeating`: pieces built from others
-/

namespace HookGraft

/-- The number of levels of something with parts, by the numbers of levels of its parts. A single
part adds none. -/
def levelsAround (parts : List Nat) : Nat :=
  let deepest := parts.foldl max 0
  if parts.length < 2 then deepest else deepest + 1

/-- A term, with the depth to which the pattern nests it. -/
structure Piece where
  regex : Regex
  depth : Nat := 0
  deriving DecidableEq

namespace Piece

/-- A single character that belongs to a class. -/
def char (k : CharClass) : Piece := ⟨.ofClass k, 0⟩

/-- A condition on the place. -/
def look (l : Look) : Piece := ⟨.look l, 0⟩

/-- Pieces one after the other. -/
def sequence (ps : List Piece) : Piece :=
  ⟨Regex.sequence (ps.map regex), levelsAround (ps.map depth)⟩

/-- A choice between pieces. -/
def choice (ps : List Piece) : Piece :=
  ⟨Regex.choice (ps.map regex), levelsAround (ps.map depth)⟩

/-- A piece in parentheses, which capture it if they have a number. -/
def group (index : Option Nat) (p : Piece) : Piece where
  regex := match index with
    | none => p.regex
    | some index => .group index p.regex
  depth := p.depth + 1

/-- A piece at least `min` times and, unless unbounded, at most `max` times. -/
def repeating (p : Piece) (min : Nat) (max : Option Nat) (greedy : Bool) : Piece :=
  ⟨p.regex.repeating min max greedy, p.depth + 1⟩

end Piece

end HookGraft

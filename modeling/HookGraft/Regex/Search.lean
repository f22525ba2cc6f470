import HookGraft.Regex.Matching

/-!
# Searching

A search starts the automaton of a term at one place after another, and takes the preferred thread
at the first place where one comes to the end. Searching for all matches goes on where the last
match ended; an empty match directly behind another match is passed over.

## Main definitions

* `Match`: where a term matched, and what its groups read
* `Automaton.firstFrom?`: the first match at or after a place
* `Regex.first?`, `Regex.allMatches`: the first match in a text, and all from left to right
-/

namespace HookGraft

/-- A part of a text, with the places where it begins and ends. -/
structure Extent where
  start : Cursor
  stop : Cursor
  deriving DecidableEq

namespace Extent

/-- The characters between the two places. -/
def text (e : Extent) : Text :=
  Text.takeBytes (e.stop.offset - e.start.offset) e.start.after

/-- Whether the two places are one. -/
def isEmpty (e : Extent) : Bool := e.start.offset == e.stop.offset

end Extent

/-- Where a term matched, and what its groups read. -/
structure Match where
  whole : Extent
  /-- what each group read last, if it took part -/
  groups : List (Option Extent)
  deriving DecidableEq

namespace Match

/-- What the group with number `index` read. Groups are counted from one. -/
def group? (m : Match) : (index : Nat) → Option Extent
  | 0 => none
  | index + 1 => m.groups[index]?.join

/-- The match of a thread that began at `start` and has come to the end. -/
def ofThread (groupCount : Nat) (start : Cursor) (t : Thread) : Match where
  whole := ⟨start, t.place⟩
  groups := (List.range groupCount).map fun i =>
    (t.group? (i + 1)).map fun (start, stop) => ⟨start, stop⟩

end Match

namespace Automaton

/-- The first match in the text `after` that lies behind `before`, `offset` bytes into the whole
text. A step and a place that a search from the left has `seen` in vain are not entered again. -/
def searchFrom? (a : Automaton) (origin fuel : Nat) (seen : BitSet) (before : Text)
    (offset : Nat) : (after : Text) → Option Match
  | [] =>
    let start := ⟨before, [], offset⟩
    (a.explore origin fuel [⟨0, start, []⟩] seen).1.map (Match.ofThread a.groupCount start)
  | c :: rest =>
    let start := ⟨before, c :: rest, offset⟩
    match a.explore origin fuel [⟨0, start, []⟩] seen with
    | (some t, _) => some (Match.ofThread a.groupCount start t)
    | (none, seen) => searchFrom? a origin fuel seen (c :: before) (offset + c.utf8Size) rest

/-- The number of steps in which a search of a text ends: every step is entered once at most at
every place, and leads to two threads at most. -/
def fuel (a : Automaton) (text : Text) : Nat :=
  2 * ((a.steps.size + 1) * (Text.utf8Size text + 1)) + 1

/-- The first match that begins at or after a place. -/
def firstFrom? (a : Automaton) (fuel : Nat) (p : Cursor) : Option Match :=
  a.searchFrom? p.offset fuel .empty p.before p.offset p.after

/-- At most `limit` matches at or after a place. If `occupied`, a match ends at the place and an
empty one may not begin there. -/
def matchesFrom (a : Automaton) (fuel : Nat) :
    (limit : Nat) → (occupied : Bool) → Cursor → List Match
  | 0, _, _ => []
  | limit + 1, occupied, p =>
    let onward (p : Cursor) := (p.next?.map (matchesFrom a fuel limit false)).getD []
    match a.firstFrom? fuel p with
    | none => []
    | some m =>
      -- behind an empty match the search goes on one character further, or it would not end
      if m.whole.isEmpty then
        if occupied ∧ m.whole.start.offset = p.offset then onward p
        else m :: onward m.whole.stop
      else m :: matchesFrom a fuel limit true m.whole.stop

end Automaton

namespace Regex

/-- The first match in a text. -/
def first? (r : Regex) (text : Text) : Option Match :=
  let a := r.automaton
  a.firstFrom? (a.fuel text) (Cursor.start text)

/-- All matches in a text, from left to right and without overlap. -/
def allMatches (r : Regex) (text : Text) : List Match :=
  let a := r.automaton
  a.matchesFrom (a.fuel text) (text.length + 1) false (Cursor.start text)

end Regex

end HookGraft

import HookGraft.BitSet
import HookGraft.Regex.Automaton

/-!
# Matching

A match is a path through the steps of an automaton. The steps and places that can be reached are
explored by preference, each of them once: a path that comes to a step and a place where another
one has been before it can find nothing new.

## Main definitions

* `Thread`: a path through an automaton, as far as it has come
* `Automaton.onward`: how a thread can go on
* `Automaton.explore`: the preferred thread that comes to the end
-/

namespace HookGraft

/-- A path through an automaton, as far as it has come. -/
structure Thread where
  /-- the number of the step to take next -/
  step : Nat
  place : Cursor
  /-- the sides of groups on the way, the last one first -/
  marks : List ((Nat × Side) × Cursor) := []

/-- Where a group on the way of a thread lies, if its last round is complete. -/
def Thread.group? (t : Thread) (n : Nat) : Option (Cursor × Cursor) := do
  return (← t.marks.lookup (n, .start), ← t.marks.lookup (n, .stop))

namespace Automaton

/-- The threads that take the next step of a thread, by preference. -/
def onward (a : Automaton) (t : Thread) : List Thread :=
  match a.steps[t.step]? with
  | none => []
  | some (.read k) =>
    match t.place.after with
    | [] => []
    | c :: rest =>
      if k.contains c then
        let place := ⟨c :: t.place.before, rest, t.place.offset + c.utf8Size⟩
        [{ t with step := t.step + 1, place }]
      else []
  | some (.check l) => if l.holds t.place then [{ t with step := t.step + 1 }] else []
  | some (.mark n side) =>
    [{ t with step := t.step + 1, marks := ((n, side), t.place) :: t.marks }]
  | some (.jump target) => [{ t with step := target }]
  | some (.fork first second) => [{ t with step := first }, { t with step := second }]

/-- The number of a step and a place at or after byte `origin`. -/
def key (a : Automaton) (origin : Nat) (t : Thread) : Nat :=
  (t.place.offset - origin) * (a.steps.size + 1) + t.step

/-- The first of some threads that comes to the end, if one does in the time of `fuel` steps, and
what has been seen then. What has been seen before is not entered again. -/
def explore (a : Automaton) (origin : Nat) :
    (fuel : Nat) → List Thread → (seen : BitSet) → Option Thread × BitSet
  | 0, _, seen | _ + 1, [], seen => (none, seen)
  | fuel + 1, t :: rest, seen =>
    if seen.contains (a.key origin t) then explore a origin fuel rest seen
    else if t.step = a.steps.size then (some t, seen)
    else explore a origin fuel (a.onward t ++ rest) (seen.insert (a.key origin t))

end Automaton

end HookGraft

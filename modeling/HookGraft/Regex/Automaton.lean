import HookGraft.Regex.Building

/-!
# Automata

A term is laid out as a list of steps. A step goes on to the one behind it unless it names others,
and to have come past the last step is to have matched.

## Main definitions

* `Step`: what is to be done at one point of a match
* `Regex.layout`: the steps of a term
* `Automaton`: the steps of a whole pattern

## Main results

* `Regex.length_layout`: a term has as many steps wherever it is laid out
-/

namespace HookGraft

/-- The two sides of a group. -/
inductive Side where
  | start
  | stop
  deriving DecidableEq

/-- What is to be done at one point of a match. -/
inductive Step where
  /-- one character is read -/
  | read (k : CharClass)
  /-- the place has to meet a condition -/
  | check (l : Look)
  /-- a group begins or ends -/
  | mark (group : Nat) (side : Side)
  | jump (target : Nat)
  /-- the match goes on at the first of two steps, or else at the second -/
  | fork (first second : Nat)
  deriving DecidableEq

/-- The choice between going on and leaving a repetition. -/
def Step.loop (greedy : Bool) (onward exit : Nat) : Step :=
  if greedy then fork onward exit else fork exit onward

namespace Repetition

variable (steps : Nat → List Step) (size : Nat) (greedy : Bool)

/-- A part of `size` steps `n` times. -/
def exactly : (n index : Nat) → List Step
  | 0, _ => []
  | n + 1, index => steps index ++ exactly n (index + size)

/-- A part at most `n` times, each of which may be the last before `exit`. -/
def atMost (exit : Nat) : (n index : Nat) → List Step
  | 0, _ => []
  | n + 1, index =>
    .loop greedy (index + 1) exit :: (steps (index + 1) ++ atMost exit n (index + 1 + size))

/-- A part once or more. -/
def atLeastOnce (index : Nat) : List Step :=
  steps index ++ [.loop greedy index (index + size + 1)]

/-- A part any number of times. If a round can read nothing, the choice before the first round and
the choice after a round are two: either may come up where the other one has been before. -/
def anyTimes (canReadNothing : Bool) (index : Nat) : List Step :=
  let choice := .loop greedy (index + 1) (index + size + 2)
  choice :: steps (index + 1) ++ [if canReadNothing then choice else .jump index]

end Repetition

namespace Regex

/-- The number of steps of a term. -/
def size : Regex → Nat
  | text t => t.length
  | char _ | look _ => 1
  | seq a b => a.size + b.size
  | alt a b => a.size + b.size + 2
  | group _ r => r.size + 2
  | repeated r min (some max) _ => min * r.size + (max - min) * (r.size + 1)
  | repeated r 0 none _ => r.size + 2
  | repeated r (min + 1) none _ => (min + 1) * r.size + 1

/-- The steps of a term, the first of which has the number `index`. -/
def layout : Regex → (index : Nat) → List Step
  | text t, _ => t.map fun c => .read (.one c)
  | char k, _ => [.read k]
  | look l, _ => [.check l]
  | seq a b, index => a.layout index ++ b.layout (index + a.size)
  | alt a b, index =>
    let right := index + a.size + 2
    .fork (index + 1) right :: a.layout (index + 1) ++ .jump (right + b.size) :: b.layout right
  | group n r, index => .mark n .start :: r.layout (index + 1) ++ [.mark n .stop]
  | repeated r min (some max) greedy, index =>
    let behind := index + min * r.size
    let exit := behind + (max - min) * (r.size + 1)
    Repetition.exactly r.layout r.size min index
      ++ Repetition.atMost r.layout r.size greedy exit (max - min) behind
  | repeated r 0 none greedy, index =>
    Repetition.anyTimes r.layout r.size greedy r.canReadNothing index
  | repeated r (min + 1) none greedy, index =>
    Repetition.exactly r.layout r.size min index
      ++ Repetition.atLeastOnce r.layout r.size greedy (index + min * r.size)

end Regex

namespace Repetition

variable {steps : Nat → List Step} {size : Nat} (h : ∀ index, (steps index).length = size)
include h

theorem length_exactly (n index : Nat) : (exactly steps size n index).length = n * size := by
  induction n generalizing index with
  | zero => simp [exactly]
  | succ n ih => simp [exactly, h, ih, Nat.add_mul, Nat.add_comm]

theorem length_atMost (greedy : Bool) (exit n index : Nat) :
    (atMost steps size greedy exit n index).length = n * (size + 1) := by
  induction n generalizing index with
  | zero => simp [atMost]
  | succ n ih =>
    simp only [atMost, List.length_cons, List.length_append, h, ih, Nat.add_mul, Nat.one_mul]
    omega

theorem length_atLeastOnce (greedy : Bool) (index : Nat) :
    (atLeastOnce steps size greedy index).length = size + 1 := by
  simp [atLeastOnce, h]

theorem length_anyTimes (greedy canReadNothing : Bool) (index : Nat) :
    (anyTimes steps size greedy canReadNothing index).length = size + 2 := by
  simp [anyTimes, h]

end Repetition

@[simp] theorem Regex.length_layout (r : Regex) (index : Nat) :
    (r.layout index).length = r.size := by
  induction r generalizing index with
  | text t => simp [layout, size]
  | char | look => rfl
  | seq a b iha ihb => simp [layout, size, iha, ihb]
  | alt a b iha ihb =>
    simp only [layout, size, List.length_append, List.length_cons, iha, ihb]
    omega
  | group n r ih => simp [layout, size, ih]
  | repeated r min max greedy ih =>
    match max, min with
    | some max, min =>
      simp [layout, size, Repetition.length_exactly ih, Repetition.length_atMost ih]
    | none, 0 => simp [layout, size, Repetition.length_anyTimes ih]
    | none, min + 1 =>
      simp only [layout, size, List.length_append, Repetition.length_exactly ih,
        Repetition.length_atLeastOnce ih, Nat.add_mul]
      omega

/-- The steps of a whole pattern. -/
structure Automaton where
  steps : Array Step
  /-- the highest number of a group that can take part in a match -/
  groupCount : Nat

/-- The steps of a term. -/
def Regex.automaton (r : Regex) : Automaton where
  steps := (r.layout 0).toArray
  groupCount := r.groupCount

end HookGraft

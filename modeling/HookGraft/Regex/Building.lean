import HookGraft.Regex.Basic

/-!
# Building terms

Classes, sequences, choices and repetitions are built from their parts in a simplified form, in
which a text is one term and a choice between characters is a class. What the form is decides which
of several matches is preferred, wherever the parts can read one text in several ways.

## Main definitions

* `Regex.ofClass`: a character of a class
* `Regex.sequence`: terms one after the other
* `Regex.choice`: a choice between terms
* `Regex.repeating`: a term several times
-/

namespace HookGraft.Regex

/-- The term that reads nothing. -/
def nothing : Regex := text []

/-- A character of a class. -/
def ofClass (k : CharClass) : Regex :=
  match k.member? with
  | some c => text [c]
  | none => char k

/-- The terms that a term is a sequence of. -/
def pieces : Regex → List Regex
  | text [] => []
  | seq a b => a.pieces ++ b.pieces
  | r => [r]

/-- The terms that a term is a choice between. -/
def alternatives : Regex → List Regex
  | alt a b => a.alternatives ++ b.alternatives
  | r => [r]

/-- Puts a term before others. Texts that follow each other become one. -/
def prepend : Regex → List Regex → List Regex
  | text s, text t :: rest => text (s ++ t) :: rest
  | r, rest => r :: rest

/-- Terms one after the other, as they are. -/
def inOrder : List Regex → Regex
  | [] => nothing
  | [r] => r
  | r :: rest => seq r (inOrder rest)

/-- One of several terms, as they are. -/
def oneOf : List Regex → Regex
  | [] => nothing
  | [r] => r
  | r :: rest => alt r (oneOf rest)

/-- Terms one after the other. -/
def sequence (rs : List Regex) : Regex :=
  inOrder ((rs.flatMap pieces).foldr prepend [])

/-- The class of the character that a term is the text of. -/
def letter? : Regex → Option CharClass
  | text [c] => some (.one c)
  | _ => none

/-- The class that a term reads a character of. -/
def class? : Regex → Option CharClass
  | char k => some k
  | _ => none

/-- One of several terms, as one class if all of them are single characters or all are classes. -/
def oneOfClasses (rs : List Regex) : Regex :=
  match (rs.mapM letter?).or (rs.mapM class?) with
  | some classes => ofClass (classes.foldl CharClass.union .nothing)
  | none => oneOf rs

/-- The terms that two lists both begin with. -/
def commonStart : List Regex → List Regex → List Regex
  | a :: as, b :: bs => if a = b then a :: commonStart as bs else []
  | _, _ => []

/-- A choice between terms. If all of them are sequences that begin alike, the choice is made only
after what they have in common. -/
def choice (rs : List Regex) : Regex :=
  let options := rs.flatMap alternatives
  let sequences := options.map pieces
  match sequences with
  | [] => nothing
  | [only] => inOrder only
  | first :: rest =>
    let common := rest.foldl commonStart first
    if common.isEmpty || sequences.any (·.length ≤ 1) then oneOfClasses options
    else
      let remainders := sequences.map fun terms => inOrder (terms.drop common.length)
      sequence (common ++ [oneOfClasses (remainders.flatMap alternatives)])

/-- A term at least `min` times and, unless unbounded, at most `max` times. To read nothing once
more changes nothing, so a term that reads nothing is repeated at most once. -/
def repeating (r : Regex) (min : Nat) (max : Option Nat) (greedy : Bool) : Regex :=
  let min := if r.readsNothing then Nat.min min 1 else min
  let max := if r.readsNothing then some (Nat.min (max.getD 1) 1) else max
  if max = some 0 then nothing
  else if min = 1 ∧ max = some 1 then r
  else repeated r min max greedy

end HookGraft.Regex

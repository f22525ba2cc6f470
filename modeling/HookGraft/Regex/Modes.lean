import HookGraft.Regex.Basic

/-!
# Switches

Switches change the meaning of the characters of a pattern. A pattern turns them on and off by
letters, for a group or from some place on.

## Main definitions

* `Modes`: the switches
* `Modes.switch?`: turns switches on and off by letters
-/

namespace HookGraft

/-- The switches that change the meaning of the characters of a pattern. -/
structure Modes where
  /-- letters match without regard to case -/
  ignoreCase : Bool := false
  /-- a caret and a dollar sign speak of lines -/
  byLine : Bool := false
  /-- a carriage return ends a line too -/
  carried : Bool := false
  /-- a dot matches the ends of lines too -/
  dotAll : Bool := false
  /-- a repetition is reluctant unless a question mark follows it -/
  reluctant : Bool := false
  /-- classes and words are those of ASCII -/
  ascii : Bool := false
  /-- white space and comments between the parts of a pattern have no meaning -/
  spaced : Bool := false
  deriving DecidableEq

namespace Modes

/-- Turns on or off the switches that letters name, on before a hyphen and off after it. No letter
may come twice, there is at most one hyphen, and a letter follows it. -/
def switch? (on : Bool) (seen : Text) : Text → Modes → Option Modes
  | [], modes => if seen.head? = some '-' then none else some modes
  | c :: rest, modes =>
    if seen.contains c then none
    else
      match c with
      | '-' => switch? false (c :: seen) rest modes
      | 'i' => switch? on (c :: seen) rest { modes with ignoreCase := on }
      | 'm' => switch? on (c :: seen) rest { modes with byLine := on }
      | 'R' => switch? on (c :: seen) rest { modes with carried := on }
      | 's' => switch? on (c :: seen) rest { modes with dotAll := on }
      | 'U' => switch? on (c :: seen) rest { modes with reluctant := on }
      | 'u' => switch? on (c :: seen) rest { modes with ascii := !on }
      | 'x' => switch? on (c :: seen) rest { modes with spaced := on }
      | _ => none

/-- A class with the letters of the other case, if case is disregarded. -/
def fold (modes : Modes) (k : CharClass) : CharClass :=
  if !modes.ignoreCase then k else if modes.ascii then k.asciiCaseless else k.caseless

/-- A character that stands for itself. In ASCII no other letter has a case. -/
def literal? (modes : Modes) (c : Char) : Option CharClass :=
  if modes.ignoreCase && modes.ascii && 0x80 ≤ c.toNat then none
  else some (modes.fold (.one c))

/-- A class, in ASCII only if it has no other characters. -/
def admit? (modes : Modes) (k : CharClass) : Option CharClass :=
  if modes.ascii && !k.isAscii then none else some k

/-- What a dot stands for. -/
def dot? (modes : Modes) : Option CharClass :=
  modes.admit? (if modes.dotAll then .anything else if modes.carried then .inCarriedLine else .inLine)

/-- What a caret stands for. -/
def start (modes : Modes) : Look :=
  if !modes.byLine then .textStart else if modes.carried then .carriedLineStart else .lineStart

/-- What a dollar sign stands for. -/
def stop (modes : Modes) : Look :=
  if !modes.byLine then .textEnd else if modes.carried then .carriedLineEnd else .lineEnd

end Modes

end HookGraft

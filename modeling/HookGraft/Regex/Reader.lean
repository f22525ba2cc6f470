import HookGraft.Regex.SetReader

/-!
# Reading patterns

A pattern is read from left to right, one character at a time. What has been read is a state that
the next character extends, so reading `a ++ b` is reading `b` in the state left by `a`. All of the
syntax is read but Unicode properties.

## Main definitions

* `PatternState`: a pattern read in part
* `PatternState.read?`: reads one more character
* `Regex.parse?`: the term a text stands for

## Main results

* `PatternState.readAll_append`: a text is read piece by piece
-/

namespace HookGraft

/-- How often a piece is repeated. -/
structure Repeats where
  min : Nat
  max : Option Nat
  greedy : Bool
  /-- the bounds are written in braces -/
  counted : Bool := false
  deriving DecidableEq

/-- A repeated piece. -/
def Piece.repeats (p : Piece) (r : Repeats) : Piece := p.repeating r.min r.max r.greedy

/-- The pieces of one alternative. Only the newest of them can be repeated. -/
structure Branch where
  /-- the pieces before the newest one, in reverse -/
  done : List Piece := []
  last : Option Piece := none
  /-- a repetition of the newest piece that a question mark would turn round -/
  repeats : Option Repeats := none
  /-- white space without meaning stands behind the newest piece -/
  parted : Bool := false
  deriving DecidableEq

/-- The condition that a name in braces stands for behind the escape sequence for a boundary. -/
def WordLook.named? : Text → Option WordLook
  | ['s', 't', 'a', 'r', 't'] => some .start
  | ['e', 'n', 'd'] => some .stop
  | ['s', 't', 'a', 'r', 't', '-', 'h', 'a', 'l', 'f'] => some .startHalf
  | ['e', 'n', 'd', '-', 'h', 'a', 'l', 'f'] => some .stopHalf
  | _ => none

namespace Branch

/-- The newest piece, with its repetition. -/
def newest? (b : Branch) : Option Piece :=
  b.last.map fun p =>
    match b.repeats with
    | none => p
    | some r => p.repeats r

/-- Closes the newest piece to repetition. -/
def close (b : Branch) : Branch := { done := b.newest?.toList ++ b.done }

/-- Adds a piece. -/
def push (b : Branch) (p : Piece) : Branch := { b.close with last := some p }

/-- The pieces in sequence. -/
def toPiece (b : Branch) : Piece := Piece.sequence b.close.done.reverse

/-- Repeats the newest piece. -/
def repeatLast? (b : Branch) (r : Repeats) : Option Branch :=
  b.newest?.map fun p => { done := b.done, last := some p, repeats := some r }

/-- Reads a question mark: directly after a repetition it turns that one round, from greedy to
reluctant or back, else it makes the newest piece optional. White space behind braces parts
nothing. -/
def question? (b : Branch) (greedy : Bool) : Option Branch :=
  match b.repeats, b.last with
  | some r, some p =>
    if b.parted && !r.counted then b.repeatLast? ⟨0, some 1, greedy, false⟩
    else some { done := b.done, last := some (p.repeats { r with greedy := !r.greedy }) }
  | _, _ => b.repeatLast? ⟨0, some 1, greedy, false⟩

/-- Reads a name in braces directly behind a boundary of words. -/
def nameBoundary? (b : Branch) (name : Text) : Option Branch :=
  match b with
  | { done, last := some ⟨.look (.word .boundary ascii), 0⟩, repeats := none, parted := false } =>
    (WordLook.named? name).map fun w => { done, last := some (.look (.word w ascii)) }
  | _ => none

end Branch

/-- What has been read of a group, or of the whole pattern. -/
structure Level where
  modes : Modes := {}
  /-- the alternatives before the current one, in reverse -/
  choices : List Piece := []
  branch : Branch := {}
  deriving DecidableEq

namespace Level

/-- The piece for what has been read. -/
def toPiece (l : Level) : Piece := Piece.choice (l.branch.toPiece :: l.choices).reverse

/-- Begins another alternative. -/
def nextChoice (l : Level) : Level :=
  { l with choices := l.branch.toPiece :: l.choices, branch := {} }

/-- Adds a piece to the current alternative. -/
def push (l : Level) (p : Piece) : Level := { l with branch := l.branch.push p }

/-- Goes on with other switches. The place where they change cannot be repeated. -/
def switch (l : Level) (modes : Modes) : Level :=
  { l with modes, branch := (l.branch.push ⟨.nothing, 0⟩).close }

end Level

/-- A piece of a pattern that has been begun. -/
inductive Pending where
  | nothing
  | escape (stage : EscapeStage)
  | set (s : SetReading)
  /-- an opening parenthesis -/
  | opened
  /-- what follows an opening parenthesis and a question mark -/
  | head (seen : Text)
  /-- what follows an opening brace -/
  | bounds (seen : Text)
  deriving DecidableEq

/-- A pattern read in part. -/
structure PatternState where
  level : Level := {}
  /-- the levels around the current one, with the number of the group that each awaits -/
  outer : List (Option Nat × Level) := []
  /-- the number of capturing groups begun -/
  groups : Nat := 0
  /-- the names given to groups -/
  names : List Text := []
  pending : Pending := .nothing
  /-- a comment has been begun, which lasts to the end of the line -/
  inComment : Bool := false
  deriving DecidableEq

/-- Whether white space may be passed over here, if it has no meaning. -/
def Pending.skips : Pending → Bool
  | nothing | opened | bounds _ => true
  | escape stage => stage.skips
  | set s => s.skips
  | head _ => false

/-- Whether a text can name a group: it begins with a letter or an underscore and goes on with
these, numbers, dots and brackets. -/
def isGroupName : Text → Bool
  | [] => false
  | c :: rest =>
    (c == '_' || Unicode.alphabeticRanges.contains c)
      && rest.all fun c => c == '_' || c == '.' || c == '[' || c == ']' || Unicode.isAlphanumeric c

/-- The name of a group whose head, up to the closing angle bracket, is `head`. -/
def groupName? : Text → Option Text
  | 'P' :: '<' :: name | '<' :: name => if isGroupName name then some name else none
  | _ => none

/-- The number written by decimal digits, which white space may surround. Counts are below 2^32. -/
def count? (text : Text) : Option Nat :=
  let digits := ((text.dropWhile Unicode.isSpace).reverse.dropWhile Unicode.isSpace).reverse
  if digits.isEmpty || !digits.all Char.isDigit then none
  else
    let n := digits.foldl (fun n d => 10 * n + (d.toNat - '0'.toNat)) 0
    if n < UInt32.size then some n else none

/-- The bounds of a repetition: one count, a count and a comma, or two counts in order. -/
def bounds? (text : Text) : Option (Nat × Option Nat) :=
  match Text.pieces ',' text with
  | [n] => do
    let n ← count? n
    return (n, some n)
  | [min, []] => do return (← count? min, none)
  | [min, max] => do
    let min ← count? min
    let max ← count? max
    if min ≤ max then return (min, some max) else none
  | _ => none

namespace PatternState

/-- Adds a piece. -/
def push (s : PatternState) (p : Piece) : PatternState := { s with level := s.level.push p }

/-- Adds a character of a class, if there is such a class. -/
def pushClass? (s : PatternState) (k : Option CharClass) : Option PatternState :=
  k.map fun k => s.push (.char k)

/-- Adds a character that stands for itself. -/
def pushLiteral? (s : PatternState) (c : Char) : Option PatternState :=
  s.pushClass? (s.level.modes.literal? c)

/-- Begins a group, capturing if it has a number. -/
def openGroup (s : PatternState) (index : Option Nat) (modes : Modes) : PatternState :=
  { s with level := { modes }, outer := (index, s.level) :: s.outer }

/-- Begins the next capturing group. -/
def openCapture (s : PatternState) : PatternState :=
  { s.openGroup (some (s.groups + 1)) s.level.modes with groups := s.groups + 1 }

/-- Ends the current group. The switches set in it end with it. -/
def closeGroup? (s : PatternState) : Option PatternState :=
  match s.outer with
  | [] => none
  | (index, level) :: outer =>
    some { s with level := level.push (s.level.toPiece.group index), outer }

/-- Replaces the current alternative. -/
def setBranch (s : PatternState) (b : Branch) : PatternState :=
  { s with level := { s.level with branch := b } }

/-- Repeats the newest piece, reluctantly if the switch for it is on. -/
def repeatLast? (s : PatternState) (min : Nat) (max : Option Nat) (counted : Bool := false) :
    Option PatternState :=
  (s.level.branch.repeatLast? ⟨min, max, !s.level.modes.reluctant, counted⟩).map s.setBranch

/-- Reads a character that begins a piece. -/
def readPlain? (s : PatternState) (c : Char) : Option PatternState :=
  match c with
  | '\\' => some { s with pending := .escape .opened }
  | '[' => some { s with pending := .set {} }
  | '(' => some { s with pending := .opened }
  | ')' => s.closeGroup?
  | '|' => some { s with level := s.level.nextChoice }
  | '*' => s.repeatLast? 0 none
  | '+' => s.repeatLast? 1 none
  | '?' => (s.level.branch.question? !s.level.modes.reluctant).map s.setBranch
  | '{' => if s.level.branch.last.isSome then some { s with pending := .bounds [] } else none
  | '.' => s.pushClass? s.level.modes.dot?
  | '^' => some (s.push (.look s.level.modes.start))
  | '$' => some (s.push (.look s.level.modes.stop))
  | c => s.pushLiteral? c

/-- Reads a character of the head of a group, which a closing angle bracket, a closing parenthesis
or a colon ends. -/
def readHead? (s : PatternState) (seen : Text) (c : Char) : Option PatternState :=
  match c with
  | '>' => do
    let name ← groupName? seen
    if s.names.contains name then none
    else some { s.openCapture with names := name :: s.names }
  | ')' =>
    if seen.isEmpty then none
    else (s.level.modes.switch? true [] seen).map fun modes =>
      { s with level := s.level.switch modes }
  | ':' => (s.level.modes.switch? true [] seen).map (s.openGroup none)
  | c => some { s with pending := .head (seen ++ [c]) }

/-- Reads what stands in braces behind a piece: bounds for its repetition, or a name. -/
def readBraces? (s : PatternState) (seen : Text) : Option PatternState :=
  match bounds? seen with
  | some (min, max) => s.repeatLast? min max true
  | none => (s.level.branch.nameBoundary? seen).map s.setBranch

/-- Goes on with a set as read so far, or with the complete set. -/
def goOn (s : PatternState) : SetReading ⊕ Piece → PatternState
  | .inl reading => { s with pending := .set reading }
  | .inr p => { s with pending := .nothing }.push p

/-- Reads one more character that has a meaning, if the pattern can go on with it. -/
def readChar? (s : PatternState) (c : Char) : Option PatternState :=
  let rest := { s with pending := .nothing }
  match s.pending with
  | .nothing => rest.readPlain? c
  | .escape stage =>
    (stage.read s.level.modes c).bind fun
      | .inl stage => some { s with pending := .escape stage }
      | .inr (.literal c) => rest.pushLiteral? c
      | .inr (.oneOf k) => some (rest.push (.char k))
      | .inr (.look l) => some (rest.push (.look l))
  | .set reading => (reading.read? s.level.modes c).map s.goOn
  | .opened =>
    if c = '?' then some { s with pending := .head [] } else rest.openCapture.readPlain? c
  | .head seen => rest.readHead? seen c
  | .bounds seen =>
    if c = '\x7d' then rest.readBraces? seen
    else some { s with pending := .bounds (seen ++ [c]) }

/-- Passes over white space without meaning. -/
def skip? (s : PatternState) : Option PatternState :=
  match s.pending with
  | .nothing => some (s.setBranch { s.level.branch with parted := true })
  | .set reading => (reading.skip? s.level.modes).map s.goOn
  | _ => some s

/-- Reads one more character, if the pattern can go on with it. White space may have no meaning, and
a number sign may begin a comment then. -/
def read? (s : PatternState) (c : Char) : Option PatternState :=
  if s.inComment then some { s with inComment := c != '\n' }
  else if s.level.modes.spaced && s.pending.skips && (Unicode.isSpace c || c == '#') then
    s.skip?.map fun s => { s with inComment := c == '#' }
  else s.readChar? c

/-- Reads a text. -/
def readAll? (s : PatternState) (text : Text) : Option PatternState :=
  text.foldlM read? s

theorem readAll_append (s : PatternState) (a b : Text) :
    s.readAll? (a ++ b) = (s.readAll? a).bind fun t => t.readAll? b := by
  simp [readAll?, List.foldlM_append, bind]

/-- The term for a pattern that is complete: every group has ended, and nothing is pending. It may
be nested 250 levels deep. -/
def finish? (s : PatternState) : Option Regex :=
  let whole := s.level.toPiece
  if s.outer.isEmpty ∧ s.pending = .nothing ∧ whole.depth ≤ 250 then some whole.regex else none

end PatternState

/-- The term that a text stands for. -/
def Regex.parse? (modes : Modes) (pattern : Text) : Option Regex :=
  (PatternState.readAll? { level := { modes } } pattern).bind PatternState.finish?

end HookGraft

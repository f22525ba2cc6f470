import HookGraft.Regex.EscapeReader
import HookGraft.Regex.Piece

/-!
# Sets of characters in brackets

A set lists characters, ranges, classes and other sets between brackets, and is negated by a caret
in front. Operators between lists, which are doubled signs, are applied from left to right. A set
is read one character at a time.

## Main definitions

* `SetOperator`: what two lists are combined by
* `SetReading`: how far a set has been read
* `SetReading.read?`: reads one more character
-/

namespace HookGraft

/-- One entry of a set. -/
inductive SetEntry where
  | literal (c : Char)
  | oneOf (k : CharClass)
  deriving DecidableEq

/-- The characters an entry stands for. In ASCII no other character stands for itself. -/
def SetEntry.toClass? (modes : Modes) : SetEntry → Option CharClass
  | literal c => modes.admit? (.one c)
  | oneOf k => some k

/-- What two lists are combined by. -/
inductive SetOperator where
  | intersection
  | difference
  | symmetricDifference
  deriving DecidableEq

namespace SetOperator

/-- The sign that is doubled to make an operator. -/
def sign : SetOperator → Char
  | intersection => '&'
  | difference => '-'
  | symmetricDifference => '~'

/-- The operator that a sign makes. -/
def ofSign? (c : Char) : Option SetOperator :=
  [intersection, difference, symmetricDifference].find? (·.sign == c)

/-- The characters of a combination. -/
def apply : SetOperator → CharClass → CharClass → CharClass
  | intersection => .intersection
  | difference => .difference
  | symmetricDifference => .symmetricDifference

end SetOperator

/-- How far the entry at hand has been read. -/
inductive SetStage where
  /-- nothing after the opening bracket -/
  | opened
  /-- at most a caret and hyphens after the opening bracket -/
  | leading
  /-- between two entries -/
  | between
  /-- an entry that a hyphen may turn into the lower end of a range -/
  | after (entry : SetEntry)
  /-- a sign that makes an operator if it comes again, and else is an entry -/
  | sign (op : SetOperator)
  /-- an entry and a hyphen, perhaps with white space behind it -/
  | range (low : SetEntry) (spaced : Bool := false)
  /-- part of an escape sequence, perhaps as the upper end of a range -/
  | escape (low : Option SetEntry) (stage : EscapeStage)
  /-- an opening bracket and what may become the name of a class, between colons -/
  | named (seen : Text)
  deriving DecidableEq

/-- The entries of a set, as far as they have been read. -/
structure SetLevel where
  negated : Bool := false
  /-- what stands before the last operator, and how deep sets are nested there -/
  left : Option (SetOperator × CharClass × Nat) := none
  entries : CharClass := .nothing
  /-- how deep sets are nested in each entry -/
  depths : List Nat := []
  deriving DecidableEq

namespace SetLevel

/-- Adds an entry in which sets are nested to a depth. -/
def add (l : SetLevel) (k : CharClass) (depth : Nat) : SetLevel :=
  { l with entries := .union l.entries k, depths := depth :: l.depths }

/-- What has been listed, with the operators applied, and how deep sets are nested in it. The case
of letters is disregarded before lists are combined. -/
def listed (modes : Modes) (l : SetLevel) : CharClass × Nat :=
  let depth := levelsAround l.depths
  match l.left with
  | none => (l.entries, depth)
  | some (op, k, depth') =>
    (op.apply (modes.fold k) (modes.fold l.entries), Nat.max depth depth' + 1)

/-- Begins the list behind an operator. -/
def operate (modes : Modes) (op : SetOperator) (l : SetLevel) : SetLevel :=
  { negated := l.negated, left := some (op, l.listed modes) }

/-- The characters of a set. The case of letters is disregarded before the set is negated. In ASCII
there is no set with other characters. -/
def toClass? (modes : Modes) (l : SetLevel) : Option CharClass :=
  let k := modes.fold (l.listed modes).1
  modes.admit? (if l.negated then .complement k else k)

end SetLevel

/-- A set whose closing bracket has not been read. -/
structure SetReading where
  stage : SetStage := .opened
  level : SetLevel := {}
  /-- the sets around this one -/
  outer : List SetLevel := []
  deriving DecidableEq

namespace SetReading

variable (modes : Modes)

/-- Adds an entry. -/
def add? (s : SetReading) (entry : SetEntry) : Option SetReading :=
  (entry.toClass? modes).map fun k => { s with stage := .between, level := s.level.add k 0 }

/-- Adds a range, of two characters in increasing order. -/
def addRange? (s : SetReading) : (low high : SetEntry) → Option SetReading
  | .literal low, .literal high =>
    if low ≤ high then (modes.admit? (.range low high)).bind fun k => s.add? modes (.oneOf k)
    else none
  | _, _ => none

/-- Opens a set inside the innermost one. -/
def openInner (s : SetReading) : SetReading := { outer := s.level :: s.outer }

/-- Closes the innermost set. -/
def close? (s : SetReading) : Option (SetReading ⊕ Piece) :=
  (s.level.toClass? modes).map fun k =>
    let depth := (s.level.listed modes).2 + 1
    match s.outer with
    | [] => .inr ⟨.ofClass k, depth⟩
    | level :: outer => .inl { stage := .between, level := level.add k depth, outer }

/-- Reads a character between two entries. -/
def readBetween? (s : SetReading) (c : Char) : Option (SetReading ⊕ Piece) :=
  match c with
  | '[' => some (.inl { s with stage := .named [] })
  | ']' => s.close? modes
  | '\\' => some (.inl { s with stage := .escape none .opened })
  | c =>
    match SetOperator.ofSign? c with
    | some op => some (.inl { s with stage := .sign op })
    | none => some (.inl { s with stage := .after (.literal c) })

/-- Reads a character after at most a caret and hyphens: a hyphen is taken literally, and so is a
closing bracket that would leave the set empty. -/
def readLeading? (s : SetReading) (c : Char) : Option (SetReading ⊕ Piece) :=
  if c = '-' then (s.add? modes (.literal c)).map fun s => .inl { s with stage := .leading }
  else if c = ']' ∧ s.level.depths.isEmpty then (s.add? modes (.literal c)).map .inl
  else s.readBetween? modes c

/-- Reads a character after an entry. -/
def readAfter? (s : SetReading) (entry : SetEntry) (c : Char) : Option (SetReading ⊕ Piece) :=
  if c = '-' then some (.inl { s with stage := .range entry })
  else (s.add? modes entry).bind fun s => s.readBetween? modes c

/-- Reads a character after an entry and a hyphen. Two hyphens next to each other make an
operator. -/
def readRange? (s : SetReading) (low : SetEntry) (spaced : Bool) (c : Char) :
    Option (SetReading ⊕ Piece) :=
  match c with
  | ']' => do (← (← s.add? modes low).add? modes (.literal '-')).close? modes
  | '-' => (s.add? modes low).map fun s =>
    if spaced then .inl { s with stage := .range (.literal '-') }
    else .inl { s with level := s.level.operate modes .difference }
  | '\\' => some (.inl { s with stage := .escape (some low) .opened })
  | c => (s.addRange? modes low (.literal c)).map .inl

/-- Reads a character of an escape sequence. -/
def readEscape? (s : SetReading) (low : Option SetEntry) (stage : EscapeStage) (c : Char) :
    Option (SetReading ⊕ Piece) :=
  match stage.read modes c, low with
  | some (.inl stage), low => some (.inl { s with stage := .escape low stage })
  | some (.inr (.literal c)), none => some (.inl { s with stage := .after (.literal c) })
  | some (.inr (.literal c)), some low => (s.addRange? modes low (.literal c)).map .inl
  | some (.inr (.oneOf k)), none => some (.inl { s with stage := .after (.oneOf k) })
  | _, _ => none

/-- Reads a character where no name of a class is being read. -/
def readEntry? (s : SetReading) (c : Char) : Option (SetReading ⊕ Piece) :=
  match s.stage with
  | .opened =>
    if c = '^' then
      some (.inl { s with stage := .leading, level := { s.level with negated := true } })
    else s.readLeading? modes c
  | .leading => s.readLeading? modes c
  | .between => s.readBetween? modes c
  | .after entry => s.readAfter? modes entry c
  | .sign op =>
    if c = op.sign then some (.inl { s with stage := .between, level := s.level.operate modes op })
    else s.readAfter? modes (.literal op.sign) c
  | .range low spaced => s.readRange? modes low spaced c
  | .escape low stage => s.readEscape? modes low stage c
  | .named _ => none

/-- Reads what turns out to be no name as the beginning of a set inside the innermost one. -/
def readInner? (s : SetReading) (seen : Text) : Option (SetReading ⊕ Piece) :=
  seen.foldlM (fun reading c =>
    match reading with
    | .inl s => s.readEntry? modes c
    | .inr _ => none) (.inl s.openInner)

/-- Whether a text may go on to be the name of a class: a colon, perhaps a caret, lower case letters
and another colon. -/
def isNamePart : Text → Bool
  | ':' :: '^' :: rest | ':' :: rest => [[], [':']].contains (rest.dropWhile Char.isLower)
  | _ => false

/-- The class with a name between colons, or the one that a caret makes of it. -/
def namedClass? : Text → Option CharClass
  | ':' :: '^' :: rest => (nameIn rest).map .complement
  | ':' :: rest => nameIn rest
  | _ => none
where
  nameIn (rest : Text) : Option CharClass :=
    if rest.getLast? = some ':' then CharClass.named? (String.ofList rest.dropLast) else none

/-- Reads a character behind an opening bracket and what may become the name of a class. -/
def readNamed? (s : SetReading) (seen : Text) (c : Char) : Option (SetReading ⊕ Piece) :=
  match if c = ']' then namedClass? seen else none with
  | some k => some (.inl { s with stage := .between, level := s.level.add k 0 })
  | none =>
    if isNamePart (seen ++ [c]) then some (.inl { s with stage := .named (seen ++ [c]) })
    else s.readInner? modes (seen ++ [c])

/-- Reads one more character: the set as read so far, or the complete set, or nothing if there is
no such set. -/
def read? (s : SetReading) (c : Char) : Option (SetReading ⊕ Piece) :=
  match s.stage with
  | .named seen => s.readNamed? modes seen c
  | _ => s.readEntry? modes c

/-- Whether white space may be passed over here, if it has no meaning. -/
def skips (s : SetReading) : Bool :=
  match s.stage with
  | .escape _ stage => stage.skips
  | _ => true

/-- Passes over white space. It parts two signs, and a bracket from what would be a name. -/
def skip? (s : SetReading) : Option (SetReading ⊕ Piece) :=
  match s.stage with
  | .named seen => s.readInner? modes seen
  | .sign op => some (.inl { s with stage := .after (.literal op.sign) })
  | .range low _ => some (.inl { s with stage := .range low true })
  | _ => some (.inl s)

end SetReading

end HookGraft

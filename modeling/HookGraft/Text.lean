/-!
# Texts

The program being patched, and everything cut out of it or put into it, is a list of characters.
Places in a text are counted in bytes of its UTF-8 form.

## Main definitions

* `Text.utf8Size`: the length of a text in bytes
* `Text.seekByte?`: the two parts of a text around a byte offset
* `Text.hasInfix`: whether a text contains another one
* `Text.pieces`: the parts of a text between the occurrences of a character
* `Text.cutFirst?`, `Text.cutLast?`: the parts around the first and the last occurrence of a text
-/

namespace HookGraft

/-- A sequence of characters. -/
abbrev Text := List Char

namespace Text

/-- The length of a text in bytes. -/
def utf8Size (text : Text) : Nat :=
  text.foldr (fun c size => c.utf8Size + size) 0

theorem utf8Size_append (a b : Text) : utf8Size (a ++ b) = utf8Size a + utf8Size b := by
  induction a with
  | nil => exact (Nat.zero_add _).symm
  | cons c a ih =>
    show c.utf8Size + utf8Size (a ++ b) = c.utf8Size + utf8Size a + utf8Size b
    rw [ih, Nat.add_assoc]

/-- Moves the first `n` bytes from the front of `after` to `before`, which is kept in reverse. -/
def seekByteFrom : Nat → Text → Text → Option (Text × Text)
  | 0, before, after => some (before.reverse, after)
  | _ + 1, _, [] => none
  | n + 1, before, c :: after =>
    if c.utf8Size ≤ n + 1 then seekByteFrom (n + 1 - c.utf8Size) (c :: before) after else none
  termination_by structural _ _ after => after

/-- The parts of a text before and after byte `n`, unless `n` lies outside the text or inside a
character. -/
def seekByte? (n : Nat) (text : Text) : Option (Text × Text) :=
  seekByteFrom n [] text

/-- Moves characters that take up at most `n` bytes from the front of a text to `taken`, which is
kept in reverse. -/
def takeBytesFrom (taken : Text) : Nat → Text → Text
  | _, [] => taken.reverse
  | n, c :: rest =>
    if c.utf8Size ≤ n then takeBytesFrom (c :: taken) (n - c.utf8Size) rest else taken.reverse
  termination_by structural _ text => text

/-- The longest initial part that takes up at most `n` bytes. -/
def takeBytes (n : Nat) (text : Text) : Text := takeBytesFrom [] n text

/-- Whether `part` occurs in a text. -/
def hasInfix (part : Text) : Text → Bool
  | [] => part.isEmpty
  | c :: rest => part.isPrefixOf (c :: rest) || hasInfix part rest

/-- The parts of a text between the occurrences of `delimiter`; there is always at least one. -/
def pieces (delimiter : Char) : Text → List Text
  | [] => [[]]
  | c :: rest =>
    if c = delimiter then [] :: pieces delimiter rest
    else
      match pieces delimiter rest with
      | [] => [[c]]
      | piece :: more => (c :: piece) :: more

/-- The part of a text before the first `delimiter`, or the whole text. -/
def headBefore (delimiter : Char) (text : Text) : Text :=
  text.takeWhile (· != delimiter)

/-- The rest of a text after the initial part `start`. -/
def dropStart? : (start text : Text) → Option Text
  | [], text => some text
  | _ :: _, [] => none
  | s :: start, c :: text => if s = c then dropStart? start text else none

/-- The part of a text before the final part `ending`. -/
def dropEnding? (ending text : Text) : Option Text :=
  (dropStart? ending.reverse text.reverse).map List.reverse

/-- The parts of a text before and after the first occurrence of `part`. -/
def cutFirst? (part : Text) : Text → Option (Text × Text)
  | [] => if part.isEmpty then some ([], []) else none
  | c :: rest =>
    match dropStart? part (c :: rest) with
    | some after => some ([], after)
    | none => (cutFirst? part rest).map fun (before, after) => (c :: before, after)

/-- The parts of a text before and after the last occurrence of `part`. -/
def cutLast? (part : Text) : Text → Option (Text × Text)
  | [] => if part.isEmpty then some ([], []) else none
  | c :: rest =>
    match cutLast? part rest with
    | some (before, after) => some (c :: before, after)
    | none => (dropStart? part (c :: rest)).map fun after => ([], after)

end Text

end HookGraft

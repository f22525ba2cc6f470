import HookGraft.Hexadecimal
import HookGraft.Regex.Modes

/-!
# Escape sequences in patterns

What a backslash and the characters after it stand for. An escape sequence is read one character
at a time. Unicode properties, which the letters p and P announce, are not among them.

## Main definitions

* `Escaped`: what an escape sequence stands for
* `EscapeStage`: how far an escape sequence has been read
* `EscapeStage.read`: reads one more character
-/

namespace HookGraft

/-- What an escape sequence stands for. -/
inductive Escaped where
  | literal (c : Char)
  | oneOf (k : CharClass)
  | look (l : Look)
  deriving DecidableEq

/-- How far an escape sequence has been read. -/
inductive EscapeStage where
  /-- only the backslash -/
  | opened
  /-- a letter that announces a code point of so many digits, or of any number in braces -/
  | codePoint (digits : Nat)
  /-- so many digits are still to come after these -/
  | fixed (missing : Nat) (digits : Text)
  /-- digits after an opening brace -/
  | braced (digits : Text)
  deriving DecidableEq

namespace EscapeStage

/-- The digits of a code point are complete. -/
def complete? (digits : Text) : Option (EscapeStage ⊕ Escaped) := do
  if digits.isEmpty then none
  return .inr (.literal (← charOfCode? (← hexNumber? digits)))

/-- A class of characters, or all others. In ASCII the others are no class. -/
def classOf? (modes : Modes) (negated : Bool) (k asciiName : CharClass) :
    Option (EscapeStage ⊕ Escaped) :=
  let k := if modes.ascii then asciiName else k
  (modes.admit? (if negated then .complement k else k)).map fun k => .inr (.oneOf k)

/-- A condition on words. -/
def wordLook (modes : Modes) (w : WordLook) : Option (EscapeStage ⊕ Escaped) :=
  some (.inr (.look (.word w modes.ascii)))

/-- What a single character after the backslash stands for. Of the letters and digits only those
listed have a meaning, and characters beyond ASCII have none. -/
def letter? (modes : Modes) (c : Char) : Option (EscapeStage ⊕ Escaped) :=
  match c with
  | 'x' => some (.inl (.codePoint 2))
  | 'u' => some (.inl (.codePoint 4))
  | 'U' => some (.inl (.codePoint 8))
  | 'd' => classOf? modes false .digit .asciiDigit
  | 'D' => classOf? modes true .digit .asciiDigit
  | 'w' => classOf? modes false .word .asciiWord
  | 'W' => classOf? modes true .word .asciiWord
  | 's' => classOf? modes false .space .asciiSpace
  | 'S' => classOf? modes true .space .asciiSpace
  | 'a' => some (.inr (.literal '\x07'))
  | 'f' => some (.inr (.literal '\x0c'))
  | 't' => some (.inr (.literal '\t'))
  | 'n' => some (.inr (.literal '\n'))
  | 'r' => some (.inr (.literal '\r'))
  | 'v' => some (.inr (.literal '\x0b'))
  | 'A' => some (.inr (.look .textStart))
  | 'z' => some (.inr (.look .textEnd))
  | 'b' => wordLook modes .boundary
  | 'B' => wordLook modes .noBoundary
  | '<' => wordLook modes .start
  | '>' => wordLook modes .stop
  | c => if c.isAlphanum || 128 ≤ c.toNat then none else some (.inr (.literal c))

/-- Reads one more character of an escape sequence: what is then still to be read, or what the
sequence stands for, or nothing if it has no meaning. In ASCII two digits name no other character. -/
def read (modes : Modes) : EscapeStage → Char → Option (EscapeStage ⊕ Escaped)
  | opened, c => letter? modes c
  | codePoint digits, c =>
    if c = '{' then some (.inl (.braced []))
    else if digits = 0 then none
    else if (hexDigit? c).isNone then none
    else some (.inl (.fixed (digits - 1) [c]))
  | fixed missing digits, c =>
    if (hexDigit? c).isNone then none
    else if missing ≤ 1 then
      if modes.ascii && digits.length == 1 && digits.any ('8' ≤ ·) then none
      else complete? (digits ++ [c])
    else some (.inl (.fixed (missing - 1) (digits ++ [c])))
  | braced digits, c =>
    if c = '\x7d' then complete? digits
    else if (hexDigit? c).isNone then none
    else some (.inl (.braced (digits ++ [c])))

/-- Whether white space may be passed over here, if it has no meaning. -/
def skips : EscapeStage → Bool
  | opened => false
  | _ => true

end EscapeStage

end HookGraft

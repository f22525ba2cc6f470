import HookGraft.Text

/-!
# Escaping

A text that stands in a pattern for itself has a backslash put before each character that a pattern
would give a meaning of its own.

## Main definitions

* `isReserved`: the characters that need a backslash
* `escape`: the pattern that stands for a text
-/

namespace HookGraft

/-- The characters with a meaning of their own in a pattern. -/
def isReserved (c : Char) : Bool :=
  ".?*+^$[]\\()\x7b\x7d|-".toList.contains c

/-- The pattern that stands for a character. -/
def escapeChar (c : Char) : Text :=
  if isReserved c then ['\\', c] else [c]

/-- The pattern that stands for a text. -/
def escape (text : Text) : Text :=
  text.flatMap escapeChar

@[simp]
theorem escape_nil : escape [] = [] := rfl

@[simp]
theorem escape_cons (c : Char) (text : Text) :
    escape (c :: text) = escapeChar c ++ escape text := by
  simp [escape]

theorem escape_append (a b : Text) : escape (a ++ b) = escape a ++ escape b := by
  simp [escape]

end HookGraft

import HookGraft.Unicode.Alphabetic
import HookGraft.Unicode.Number
import HookGraft.Unicode.Word

/-!
# Character classes

The classes of characters that patterns, names and settings speak of. All of them cover the whole
of Unicode, names in version 17 and patterns in version 16.

## Main definitions

* `isSpace`: white space
* `isControl`: control characters
* `isAlphanumeric`: letters and numbers, for names
* `isWord`: the characters that may stand in a word, for patterns
-/

namespace HookGraft.Unicode

/-- Code points with the property White_Space. -/
def spaceRanges : RangeTable :=
  [(0x9, 0xd), (0x20, 0x20), (0x85, 0x85), (0xa0, 0xa0), (0x1680, 0x1680), (0x2000, 0x200a),
   (0x2028, 0x2029), (0x202f, 0x202f), (0x205f, 0x205f), (0x3000, 0x3000)]

/-- Code points of general category Control. -/
def controlRanges : RangeTable := [(0x0, 0x1f), (0x7f, 0x9f)]

/-- White space. -/
def isSpace (c : Char) : Bool := spaceRanges.contains c

/-- Control characters, in the lower and the upper block. -/
def isControl (c : Char) : Bool := controlRanges.contains c

/-- Letters and numbers, for names. -/
def isAlphanumeric (c : Char) : Bool := alphabeticRanges.contains c || numberRanges.contains c

/-- Characters that may stand in a word, for patterns. -/
def isWord (c : Char) : Bool := wordRanges.contains c

end HookGraft.Unicode

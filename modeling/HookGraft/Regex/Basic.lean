import HookGraft.Regex.CharClass
import HookGraft.Text

/-!
# Regular expressions

The terms of patterns, and the places in a text that they speak of.

## Main definitions

* `Cursor`: a place in a text, with what lies before and after it
* `WordLook`, `Look`: conditions on a place
* `Regex`: terms of patterns
* `Regex.groupCount`: the highest number of a group that can take part in a match
* `Regex.canReadNothing`, `Regex.readsNothing`: how a term relates to the empty text
-/

namespace HookGraft

/-- A place in a text. -/
structure Cursor where
  /-- the characters before the place, nearest first -/
  before : Text
  /-- the characters after the place -/
  after : Text
  /-- the number of bytes before the place -/
  offset : Nat
  deriving DecidableEq

namespace Cursor

/-- The beginning of a text. -/
def start (text : Text) : Cursor := ⟨[], text, 0⟩

/-- The place one character further on. -/
def next? (p : Cursor) : Option Cursor :=
  match p.after with
  | [] => none
  | c :: rest => some ⟨c :: p.before, rest, p.offset + c.utf8Size⟩

end Cursor

/-- A condition on a place by what stands on either side of it, word characters or others. -/
inductive WordLook where
  | boundary
  | noBoundary
  | start
  | stop
  /-- no word character stands before the place -/
  | startHalf
  /-- no word character stands after the place -/
  | stopHalf
  deriving DecidableEq

/-- Whether a condition is met where word characters stand as told before and after a place. -/
def WordLook.holds : WordLook → (before after : Bool) → Bool
  | boundary, before, after => before != after
  | noBoundary, before, after => before == after
  | start, before, after => !before && after
  | stop, before, after => before && !after
  | startHalf, before, _ => !before
  | stopHalf, _, after => !after

/-- A condition on a place in a text. -/
inductive Look where
  | textStart
  | textEnd
  | lineStart
  | lineEnd
  /-- the start of a line where a carriage return ends lines too, alone or with a line feed -/
  | carriedLineStart
  /-- the end of such a line -/
  | carriedLineEnd
  /-- a condition on words, which may be words in ASCII only -/
  | word (w : WordLook) (ascii : Bool)
  deriving DecidableEq

/-- Whether a character may stand in a word, which may be a word in ASCII only. -/
def isWordChar (ascii : Bool) (c : Char) : Bool :=
  if ascii then c.isAlphanum || c == '_' else Unicode.isWord c

/-- Whether a place meets a condition. A line ends before a line feed or with the text. -/
def Look.holds : Look → Cursor → Bool
  | textStart, p => p.before.isEmpty
  | textEnd, p => p.after.isEmpty
  | lineStart, p => p.before.head?.all (· == '\n')
  | lineEnd, p => p.after.head?.all (· == '\n')
  | carriedLineStart, p =>
    p.before.head?.all fun c => c == '\n' || (c == '\r' && p.after.head? != some '\n')
  | carriedLineEnd, p =>
    p.after.head?.all fun c => c == '\r' || (c == '\n' && p.before.head? != some '\r')
  | word w ascii, p =>
    w.holds (p.before.head?.any (isWordChar ascii)) (p.after.head?.any (isWordChar ascii))

/-- A term of a pattern. -/
inductive Regex where
  /-- the characters of a text, one after the other -/
  | text (t : Text)
  /-- any character of a class -/
  | char (k : CharClass)
  | look (l : Look)
  | seq (a b : Regex)
  | alt (a b : Regex)
  | group (index : Nat) (r : Regex)
  | repeated (r : Regex) (min : Nat) (max : Option Nat) (greedy : Bool)
  deriving DecidableEq

/-- The highest number of a group that can take part in a match. What is repeated no times at all
takes no part. -/
def Regex.groupCount : Regex → Nat
  | text _ | char _ | look _ => 0
  | seq a b | alt a b => max a.groupCount b.groupCount
  | group index r => max index r.groupCount
  | repeated _ _ (some 0) _ => 0
  | repeated r _ _ _ => r.groupCount

/-- Whether a term can read the empty text, conditions on the place set aside. -/
def Regex.canReadNothing : Regex → Bool
  | text t => t.isEmpty
  | char _ => false
  | look _ => true
  | seq a b => a.canReadNothing && b.canReadNothing
  | alt a b => a.canReadNothing || b.canReadNothing
  | group _ r => r.canReadNothing
  | repeated r min _ _ => min == 0 || r.canReadNothing

/-- Whether a term reads nothing but the empty text. -/
def Regex.readsNothing : Regex → Bool
  | text t => t.isEmpty
  | char _ => false
  | look _ => true
  | seq a b | alt a b => a.readsNothing && b.readsNothing
  | group _ r => r.readsNothing
  | repeated r _ max _ => max == some 0 || r.readsNothing

end HookGraft

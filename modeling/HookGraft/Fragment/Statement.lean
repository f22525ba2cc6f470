import HookGraft.PatchError
import HookGraft.Unicode.Classes

/-!
# Statements

Fragments come apart at the characters that separate statements and arguments. Nothing here knows
the language of the program: only the number and the kind of the pieces are checked.

## Main definitions

* `splitStatements`: the statements of a routine body
* `isChainCall`: calls made through a chain of property accesses
* `isPlainName`: names of routines
* `expectCount`, `expectDistinct`: checks on the pieces of a fragment
-/

namespace HookGraft

/-- The statements of a routine body. -/
def splitStatements (body : Text) : List Text := body.pieces ';'

/-- Whether `()` occurs in a text behind its first character. -/
def hasLateCall (text : Text) : Bool := Text.hasInfix ['(', ')'] text.tail

/-- Whether a text has a dot behind which there is a late call. -/
def hasDottedCall : Text → Bool
  | [] => false
  | c :: rest => (c == '.' && hasLateCall rest) || hasDottedCall rest

/-- Whether a statement is a call made through a chain of property accesses, such as `a.b()`: some
text, a dot, some more text and `()`. -/
def isChainCall (statement : Text) : Bool := hasDottedCall statement.tail

/-- Whether a text is made of letters, numbers, underscores and dollar signs. -/
def isPlainName (name : Text) : Bool :=
  !name.isEmpty && name.all fun c => Unicode.isAlphanumeric c || c == '_' || c == '$'

/-- Requires a number of pieces. -/
def expectCount (rule what : String) (pieces : List Text) (expected : Nat) :
    Except PatchError Unit :=
  if pieces.length = expected then .ok ()
  else .error (.unexpectedShape rule what expected pieces.length)

/-- The first of the names that repeats one before it, given those already seen. -/
def firstRepeated? (seen : List Text) : List Text → Option Text
  | [] => none
  | name :: rest => if seen.contains name then some name else firstRepeated? (name :: seen) rest

/-- Requires that no name comes twice. -/
def expectDistinct (rule what : String) (names : List Text) : Except PatchError Unit :=
  match firstRepeated? [] names with
  | none => .ok ()
  | some name => .error (.malformedFragment rule (.repeatedName what name))

end HookGraft

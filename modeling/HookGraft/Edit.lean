import HookGraft.Signature

/-!
# Edits

Texts with some parts replaced. Apart from the removal of a fragment down to one of its groups,
an edit leaves alone everything outside the parts that it replaces.

## Main definitions

* `Extent.replace`: another text in the place of an extent
* `replaceSpan?`: another text in the place of the bytes between two offsets
* `Locator.replaceAll`: another text in the place of every fragment
* `Match.keepOnly`: a fragment cut down to one of its groups
-/

namespace HookGraft

/-- The whole text that an extent is part of, with `new` in the place of the extent. -/
def Extent.replace (e : Extent) (new : Text) : Text :=
  e.start.before.reverse ++ new ++ e.stop.after

/-- The bytes of a text before `start`, then `new`, then the bytes from `stop` on. There is no such
text if `start` or `stop` lies outside the text or inside a character. -/
def replaceSpan? (text : Text) (start stop : Nat) (new : Text) : Option Text := do
  let (before, _) ← Text.seekByte? start text
  let (_, after) ← Text.seekByte? stop text
  return before ++ new ++ after

/-- The text from a place on, with matches behind that place replaced from left to right. -/
def replaceMatches (render : Match → Except PatchError Text) (place : Cursor) :
    List Match → Except PatchError Text
  | [] => .ok place.after
  | m :: rest => do
    let new ← render m
    let behind ← replaceMatches render m.whole.stop rest
    return Extent.text ⟨place, m.whole.start⟩ ++ new ++ behind

/-- A text with every fragment replaced, and the number of the fragments. -/
def Locator.replaceAll (l : Locator) (text : Text) (render : Match → Except PatchError Text) :
    Except PatchError (Text × Nat) := do
  let found := l.regex.allMatches text
  return (← replaceMatches render (Cursor.start text) found, found.length)

/-- The whole text with a fragment cut down to what one of its groups read. -/
def Match.keepOnly (m : Match) (rule : String) (index : Nat) : Except PatchError Text := do
  return m.whole.replace (← m.capture rule index)

end HookGraft

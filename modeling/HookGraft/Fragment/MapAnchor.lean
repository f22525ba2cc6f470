import HookGraft.Fragment.Statement

/-!
# Map anchors

A map anchor is written `KEY:CONTAINER[INDEX]`. It names the slot that holds the map of the game.

## Main definitions

* `MapAnchor`: the slot and the container it is part of
* `MapAnchor.ofFragment`: takes an anchor apart
-/

namespace HookGraft

/-- The slot that holds the map. -/
structure MapAnchor where
  /-- the slot, such as `abc[12]` -/
  object : Text
  /-- what the slot is part of, such as `abc` -/
  container : Text
  deriving DecidableEq

/-- Takes an anchor apart. There is exactly one colon, and behind it the name of a container before
an opening bracket. -/
def MapAnchor.ofFragment (rule : String) (fragment : Text) : Except PatchError MapAnchor :=
  match fragment.pieces ':' with
  | [_, object] =>
    let container := object.headBefore '['
    if container.isEmpty ∨ container.length = object.length then
      .error (.malformedFragment rule (.notIndexedSlot object))
    else .ok { object, container }
  | parts => .error (.unexpectedShape rule "':'-separated parts" 2 parts.length)

end HookGraft

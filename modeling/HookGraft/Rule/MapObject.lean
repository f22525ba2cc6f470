import HookGraft.Edit
import HookGraft.Fragment.MapAnchor
import HookGraft.Rule.Basic

/-!
# The map object

A table of descriptors names the slot that holds the map, as in `rxid:abc[12]`. After every
assignment to that slot the map is copied into the hook namespace, and the host is called.

## Main definitions

* `MapObject.rule`: the rule, for the key that stands before the slot
-/

namespace HookGraft.MapObject

/-- The key, a colon and the slot. -/
def anchor (key : String) : Signature where
  template := ⟨[.literal (escape key.toList), ":[a-zA-Z0-9]{3}\\[\\d+\\]"]⟩

/-- An assignment to the slot, up to the next semicolon. -/
def assignment : Signature where
  template := ⟨["(", .parameter "map_object", "=[^;]+;)"]⟩

/-- The assignment, the copy into the namespace and the call of the host. -/
def copied : Template where
  segments := [
    .parameter "fragment", .parameter "ns", ".mapObject=", .parameter "map_object", ";",
    "if(", .parameter "ns", ".afterNewMapObject)", .parameter "ns", ".afterNewMapObject();"]

/-- The name of the rule. -/
def name : String := "map-object"

/-- Locates the anchor, and then rewrites every assignment to the slot it names. -/
def apply (key : String) (text : Text) : Discovery RuleOutcome := do
  let found ← (← (anchor key).compile name (← get)).first text
  let slot ← MapAnchor.ofFragment name found.whole.text
  Discovery.bind Identifier.mapObject slot.object
  Discovery.bind Identifier.mapContainer slot.container
  let bindings ← get
  let locator ← assignment.compile name bindings
  let (text, sites) ← locator.replaceAll text fun m => do
    let fragment ← m.capture name 1
    copied.render (bindings.bind Identifier.fragment fragment) .raw
  if sites = 0 then throw locator.notFound
  return { text, sites }

/-- Copies the map into the namespace whenever another one is assigned. -/
def rule (key : String) : Rule where
  name := name
  description := "Mirrors the active map into the namespace whenever a new one is assigned"
  produces := [Identifier.mapObject, Identifier.mapContainer]
  locals := [Identifier.fragment]
  templates := [(anchor key).template, assignment.template, copied]
  apply := apply key

end HookGraft.MapObject

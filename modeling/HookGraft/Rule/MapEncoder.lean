import HookGraft.Edit
import HookGraft.Rule.Basic

/-!
# The map encoder

The first map is made by a constructor with a name of one character, which is defined empty and
filled later. The constructor is registered in the hook namespace behind its definition.

## Main definitions

* `MapEncoder.rule`: the rule
-/

namespace HookGraft.MapEncoder

/-- The construction of a map: its slot and, behind an equals sign, the constructor. -/
def construction : Signature where
  template := ⟨[.parameter "map_object", "=(.)\\[.{1,25}\\]\\(\\);"]⟩

/-- The definition of the constructor. -/
def definition : Signature where
  template := ⟨["function ", .parameter "map_encoder", "\\(\\)\\\x7b\\\x7d"]⟩

/-- The definition and the registration. -/
def registration : Template where
  segments := [
    "function ", .parameter "map_encoder", "(){};",
    .parameter "ns", ".mapEncoder=", .parameter "map_encoder", ";"]

/-- The name of the rule. -/
def name : String := "map-encoder"

/-- Locates the construction, and then rewrites every definition of the constructor. -/
def apply (text : Text) : Discovery RuleOutcome := do
  let found ← (← construction.compile name (← get)).first text
  Discovery.bind Identifier.mapEncoder (← found.capture name 1)
  let bindings ← get
  let locator ← definition.compile name bindings
  let registered ← registration.render bindings .raw
  let (text, sites) ← locator.replaceAll text fun _ => .ok registered
  if sites = 0 then throw locator.notFound
  return { text, sites }

/-- Registers the constructor of the map encoder. -/
def rule : Rule where
  name := name
  description := "Registers the map encoder constructor in the namespace at its definition"
  requires := [Identifier.mapObject]
  produces := [Identifier.mapEncoder]
  templates := [construction.template, definition.template, registration]
  apply := apply

end HookGraft.MapEncoder

import HookGraft.Edit
import HookGraft.Fragment.Routine
import HookGraft.Rule.Basic

/-!
# The undo history

The routine that saves a snapshot drops the oldest one when the history is full, and then stores
the map in a serialized form. It is registered in the hook namespace in front of its definition,
which counts for the whole scope.

## Main definitions

* `UndoHistory.rule`: the rule
-/

namespace HookGraft.UndoHistory

/-- The beginning of the routine, up to the map that it serializes. -/
def routine : Signature where
  template := ⟨[
    "function ...\\(\\)\\\x7b.{1,150}",
    .parameter "map_container", "\\[\\d{1,3}\\]--;\\\x7d",
    .parameter "map_container", "\\[\\d{1,3}\\].{1,40}\\]\\(JSON\\[.{1,40}\\]\\(",
    .parameter "map_object", "\\)"]⟩

/-- The registration and the routine. -/
def registration : Template where
  segments := [
    .parameter "ns", ".saveToUndoHistory=", .parameter "undo_routine", ";",
    .parameter "fragment"]

/-- The name of the rule. -/
def name : String := "undo-history"

/-- Locates the routine and registers it. -/
def apply (text : Text) : Discovery RuleOutcome := do
  let found ← (← routine.compile name (← get)).first text
  let fragment := found.whole.text
  Discovery.bind Identifier.undoRoutine (← routineName name fragment)
  let code ← registration.render ((← get).bind Identifier.fragment fragment) .raw
  return { text := found.whole.replace code, sites := 1 }

/-- Registers the routine that saves a snapshot of the map. -/
def rule : Rule where
  name := name
  description := "Exposes the routine that pushes a serialized map snapshot onto the undo stack"
  requires := [Identifier.mapContainer, Identifier.mapObject]
  produces := [Identifier.undoRoutine]
  locals := [Identifier.fragment]
  templates := [routine.template, registration]
  apply := apply

end HookGraft.UndoHistory

import HookGraft.Edit
import HookGraft.Fragment.ResetShape
import HookGraft.Hook.Code
import HookGraft.Rule.Basic

/-!
# The reset routine

The reset routine of the editor clears the slots that hold what is selected, and calls the routines
that update the panels:

    function j0Z()
      z5i[977]=-1; z5i[450]=-1; z5i[462]=-1;
      p4Z(); v4Z(); n4V.a1V(); B4Z(true); M4Z(); y0Z(); I6s();

Behind it, each routine is put into a wrapper that calls the host, and each slot gets a pair of
routines that read and write it.

## Main definitions

* `ResetState.rule?`: the rule, for the names of the slots and of the panels
-/

namespace HookGraft.ResetState

/-- A definition with some of the statements that a reset routine is made of. -/
def routine : Signature where
  template := ⟨[
    "function ...\\(\\)\\\x7b",
    ".{0,40}(...\\[\\d+\\]=-1;){2}",
    ".{0,40}(...\\(true\\);)",
    ".{0,40}(...\\(\\);){2}",
    "[^\x7d]+\\\x7d"]⟩

/-- The name of the rule. -/
def name : String := "reset-state"

/-- Binds a routine to the name for its panel. Yields its wrapper. -/
def injectUpdate (routine : Text) (capability : String) : Discovery Text := do
  Discovery.bind (Identifier.update capability) routine
  HookCode.wrapUpdate (← get) routine capability

/-- Binds a slot to the name for its selection. Yields its pair of routines. -/
def injectSelection (slot : Text) (capability : String) : Discovery Text := do
  Discovery.bind (Identifier.selection capability) slot
  HookCode.accessSelection (← get) slot capability

/-- Locates the reset routine, takes it apart and puts the code for its pieces behind it. Pieces
and capabilities are paired in order. -/
def apply (selection update : List String) (text : Text) : Discovery RuleOutcome := do
  let found ← (← routine.compile name (← get)).first text
  let fragment := found.whole.text
  let routineName ← routineName name fragment
  let shape ← ResetShape.ofFragment name fragment
  Discovery.bind Identifier.resetRoutine routineName
  let wrappers ← (shape.updates.zip update).mapM fun (routine, capability) =>
    injectUpdate routine capability
  let accessors ← (shape.slots.zip selection).mapM fun (slot, capability) =>
    injectSelection slot capability
  let injected := wrappers.flatten ++ accessors.flatten
  return {
    text := found.whole.replace
      (fragment ++ [';', '\x7b'] ++ injected ++ ['\x7d', ';'])
    sites := 1 }

/-- Wraps the routines that update the panels and gives access to what is selected. There has to
be one name for each slot and for each routine. -/
def rule? (selection update : List String) : Except PatchError Rule :=
  if selection.length ≠ ResetShape.slotCount then
    .error (.settings (.capabilityCount "selection" ResetShape.slotCount selection.length))
  else if update.length ≠ ResetShape.updateCount then
    .error (.settings (.capabilityCount "update" ResetShape.updateCount update.length))
  else
    .ok {
      name := name
      description :=
        "Wraps the panel update routines and exposes the selection slots "
          ++ "cleared by the reset routine"
      produces := Identifier.resetRoutine :: selection.map Identifier.selection
        ++ update.map Identifier.update
      locals := HookCode.locals
      templates := [routine.template, HookCode.updateWrapper, HookCode.selectionAccessors]
      apply := apply selection update }

end HookGraft.ResetState

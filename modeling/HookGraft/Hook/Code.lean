import HookGraft.Template

/-!
# Injected code

The code that gives the host access to the panels and the selection of the editor.

## Main definitions

* `updateWrapper`: puts a wrapper around a routine that updates a panel
* `selectionAccessors`: a pair of routines that read and write a selection slot
* `wrapUpdate`, `accessSelection`: the code for one routine and for one slot
-/

namespace HookGraft

namespace HookCode

/-- The parameters that are bound for one piece of code only. -/
def locals : List String := ["routine", "slot", "capability"]

/-- Keeps the routine under another name and puts a wrapper in its place, which calls the host when
the routine has run. -/
def updateWrapper : Template where
  segments := [
    "let ", .parameter "routine", "OLD=", .parameter "routine", ";",
    .parameter "routine", "=function()\x7b", .parameter "routine", "OLD(...arguments);",
    "if(", .parameter "ns", ".afterUpdate", .parameter "capability", ")",
    .parameter "ns", ".afterUpdate", .parameter "capability", "(...arguments);\x7d;",
    .parameter "ns", ".update", .parameter "capability", "=", .parameter "routine", ";"]

/-- A pair of routines that read and write a selection slot. -/
def selectionAccessors : Template where
  segments := [
    .parameter "ns", ".getCurrent", .parameter "capability",
    "=function()\x7breturn ", .parameter "slot", ";\x7d;",
    .parameter "ns", ".setCurrent", .parameter "capability",
    "=function(v)\x7breturn ", .parameter "slot", "=v;\x7d;"]

/-- The code for one routine. -/
def wrapUpdate (bindings : Bindings) (routine : Text) (capability : String) :
    Except PatchError Text :=
  updateWrapper.render
    ((bindings.bind "routine" routine).bind "capability" capability.toList) .raw

/-- The code for one slot. -/
def accessSelection (bindings : Bindings) (slot : Text) (capability : String) :
    Except PatchError Text :=
  selectionAccessors.render
    ((bindings.bind "slot" slot).bind "capability" capability.toList) .raw

end HookCode

end HookGraft

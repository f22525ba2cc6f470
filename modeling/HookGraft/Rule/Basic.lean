import HookGraft.Template

/-!
# Rules

A rule locates fragments of a program, takes identifiers out of them and rewrites them. It declares
which identifiers it needs and which it binds, so that the order of rules can be checked before any
text is touched.

## Main definitions

* `Discovery`: computations that bind identifiers and may fail
* `RuleOutcome`: the text that a rule leaves, and how many fragments it has rewritten
* `Rule`: a rule with its declarations
-/

namespace HookGraft

/-- Computations that bind identifiers and may fail. What was bound before a failure stays bound. -/
abbrev Discovery := ExceptT PatchError (StateM Bindings)

namespace Discovery

/-- Binds an identifier. -/
def bind (name : String) (value : Text) : Discovery Unit :=
  modify fun b => b.bind name value

/-- Runs a computation on bindings: its result, and the bindings it leaves. -/
def on {α : Type} (d : Discovery α) (b : Bindings) : Except PatchError α × Bindings :=
  d.run.run b

end Discovery

/-- The text that a rule leaves, and how many fragments it has rewritten. -/
structure RuleOutcome where
  text : Text
  sites : Nat
  deriving DecidableEq

/-- A rule with its declarations. -/
structure Rule where
  name : String
  description : String
  /-- the identifiers that earlier rules have to bind -/
  requires : List String := []
  /-- the identifiers that the rule binds -/
  produces : List String := []
  /-- the names that are bound for one fragment only -/
  locals : List String := []
  /-- all patterns and all code that the rule renders -/
  templates : List Template := []
  apply : Text → Discovery RuleOutcome

/-! ## Names of identifiers -/

namespace Identifier

/-- The slot that holds the map. -/
def mapObject : String := "map_object"

/-- What the slot of the map is part of. -/
def mapContainer : String := "map_container"

/-- The constructor of the map encoder. -/
def mapEncoder : String := "map_encoder"

/-- The routine that resets the editor. -/
def resetRoutine : String := "reset_routine"

/-- The routine that saves a snapshot of the map. -/
def undoRoutine : String := "undo_routine"

/-- The expression for the key of the colour picker. -/
def colourPickerKey : String := "colour_picker_key"

/-- The fragment that is being rewritten. -/
def fragment : String := "fragment"

/-- The routine that updates a panel. -/
def update (capability : String) : String := "update." ++ capability

/-- The slot that holds what is selected. -/
def selection (capability : String) : String := "selection." ++ capability

end Identifier

end HookGraft

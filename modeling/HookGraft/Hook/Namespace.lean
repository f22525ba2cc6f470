import HookGraft.Text

/-!
# The hook namespace

The patched program fills the slots of a namespace, an object that is reached by a fixed
expression. Every slot is absent at first, so what the host may leave out is called only after a
test that it is there.

## Main definitions

* `SlotKind`, `HookSlot`: one slot of the namespace
* `HookNamespace`: the expression for the namespace, and the capabilities that name slots
* `HookNamespace.slots`: all slots, in the order in which they are listed
* `HookNamespace.marker`: the text by which a patched program is recognised
-/

namespace HookGraft

/-- What a slot holds. -/
inductive SlotKind where
  /-- a value of the program -/
  | field
  /-- a routine of the program -/
  | callable
  /-- a routine of the host that the program calls if it is there -/
  | optionalCallback
  /-- one of a pair that reads and writes a value of the program -/
  | accessor
  deriving DecidableEq

/-- One slot of the namespace. -/
structure HookSlot where
  key : String
  kind : SlotKind
  description : String
  deriving DecidableEq

/-- The expression for the namespace, and the capabilities that name some of its slots. -/
structure HookNamespace where
  root : String
  updateCapabilities : List String := []
  selectionCapabilities : List String := []
  deriving DecidableEq

namespace HookNamespace

/-- The expression for a slot. -/
def slot (ns : HookNamespace) (key : String) : String := ns.root ++ "." ++ key

/-- The text whose presence shows that a program has been patched. -/
def marker (ns : HookNamespace) : Text := ns.root.toList ++ ['.']

/-- The statement that creates the namespace where there is none. -/
def prelude (ns : HookNamespace) : Text :=
  ns.root.toList ++ ['='] ++ ns.root.toList ++ "||\x7b\x7d;".toList

/-- The slots for the routine that updates a panel. -/
def updateSlots (capability : String) : List HookSlot :=
  [{ key := "update" ++ capability
     kind := .callable
     description := "wrapped " ++ capability ++ " update routine" },
   { key := "afterUpdate" ++ capability
     kind := .optionalCallback
     description := "called with the same arguments after update" ++ capability ++ " runs" }]

/-- The slots for what is selected. -/
def selectionSlots (capability : String) : List HookSlot :=
  [{ key := "getCurrent" ++ capability
     kind := .accessor
     description := "reads the currently selected " ++ capability },
   { key := "setCurrent" ++ capability
     kind := .accessor
     description := "replaces the currently selected " ++ capability }]

/-- The slots for the map. -/
def mapSlots : List HookSlot :=
  [{ key := "mapObject"
     kind := .field
     description := "active top-level map, set on every construction" },
   { key := "afterNewMapObject"
     kind := .optionalCallback
     description := "called after mapObject is replaced" },
   { key := "mapEncoder"
     kind := .callable
     description := "map encoder constructor" }]

/-- The slots for the editor. -/
def editorSlots : List HookSlot :=
  [{ key := "saveToUndoHistory"
     kind := .callable
     description := "pushes an undo snapshot" },
   { key := "showColourPickerArguments"
     kind := .field
     description := "arguments of the last colour picker invocation" },
   { key := "setColourPickerColour"
     kind := .callable
     description := "re-opens the colour picker with a substituted colour" }]

/-- All slots, in the order in which they are listed. -/
def slots (ns : HookNamespace) : List HookSlot :=
  mapSlots ++ ns.updateCapabilities.flatMap updateSlots
    ++ ns.selectionCapabilities.flatMap selectionSlots ++ editorSlots

end HookNamespace

end HookGraft

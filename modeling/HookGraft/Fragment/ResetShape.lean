import HookGraft.Fragment.Routine

/-!
# Reset routines

The reset routine of the editor clears three selection slots and then calls six routines that
update panels. Calls made through a chain of property accesses may stand anywhere between these
statements and are passed over.

## Main definitions

* `ResetShape`: the slots and the routines
* `ResetShape.ofFragment`: takes a reset routine apart
-/

namespace HookGraft

/-- The slots that a reset routine clears and the routines that it calls, in order. -/
structure ResetShape where
  slots : List Text
  updates : List Text
  deriving DecidableEq

namespace ResetShape

/-- The number of slots. -/
def slotCount : Nat := 3

/-- The number of routines. -/
def updateCount : Nat := 6

/-- The slot that a statement `SLOT=-1` clears. -/
def clearedSlot (rule : String) (statement : Text) : Except PatchError Text :=
  match Text.cutFirst? ['='] statement with
  | some (slot, value) =>
    if !slot.isEmpty ∧ value = ['-', '1'] then .ok slot
    else .error (.malformedFragment rule (.notReset statement))
  | none => .error (.malformedFragment rule (.notReset statement))

/-- The name and the arguments of a statement `NAME(ARGUMENTS)`. -/
def call? (statement : Text) : Option (Text × Text) := do
  let name := statement.headBefore '('
  let rest ← Text.dropStart? ['('] (statement.drop name.length)
  let arguments ← Text.dropEnding? [')'] rest
  if isPlainName name then some (name, arguments) else none

/-- The routine that a statement calls, with the arguments. -/
def calledRoutine (rule : String) (statement : Text) : Except PatchError (Text × Text) :=
  match call? statement with
  | some call => .ok call
  | none => .error (.malformedFragment rule (.notCall statement))

/-- Whether a text is one of the two boolean values. -/
def isFlag (argument : Text) : Bool :=
  argument == "true".toList || argument == "false".toList

/-- Takes a reset routine apart. One of the calls at least takes a boolean value. -/
def ofFragment (rule : String) (fragment : Text) : Except PatchError ResetShape := do
  let body ← routineBody rule fragment
  let statements := (splitStatements body).filter fun s => !isChainCall s
  expectCount rule "statements" statements (slotCount + updateCount)
  let slots ← (statements.take slotCount).mapM (clearedSlot rule)
  expectDistinct rule "selection slot" slots
  let calls ← (statements.drop slotCount).mapM (calledRoutine rule)
  if !calls.any (fun call => isFlag call.2) then
    .error (.malformedFragment rule .noFlagArgument)
  let updates := calls.map Prod.fst
  expectDistinct rule "update routine" updates
  return { slots, updates }

end ResetShape

end HookGraft

import HookGraft.Fragment.ResetShape
import HookGraft.Hook.Namespace

/-!
# Settings

What can be chosen about the injected code, and what has to hold of it so that the code makes sense.

## Main definitions

* `Settings`: the settings, with their defaults
* `Settings.validate`: the first thing that is wrong with settings
* `Settings.hookNamespace`: the hook namespace that settings describe
-/

namespace HookGraft

/-- What can be chosen about the injected code. -/
structure Settings where
  /-- the expression by which the program reaches the hook namespace -/
  hookRoot : String := "window.kklee"
  /-- the key that stands before the slot of the map -/
  anchorKey : String := "rxid"
  /-- the names of the panels, in the order in which they are updated -/
  updateCapabilities : List String :=
    ["LeftBox", "RightBoxBody", "Renderer", "Warnings", "UndoButtons", "ModeDropdown"]
  /-- the names of the selections, in the order in which they are cleared -/
  selectionCapabilities : List String := ["Body", "Spawn", "CapZone"]
  /-- the identity of the input that shows the chosen colour -/
  colourInputId : String := "kkleeColourInput"
  /-- whether the patched program creates the namespace -/
  declareNamespace : Bool := false
  deriving DecidableEq

/-- Whether a text is an identifier: ASCII letters, digits and underscores, with no digit first. -/
def isIdentifier : Text → Bool
  | [] => false
  | c :: rest => (c.isAlpha || c == '_') && rest.all fun c => c.isAlphanum || c == '_'

/-- Requires that the names are identifiers and that no name comes twice. -/
def checkNames (field : String) (seen : List String) : List String → Except SettingsDefect Unit
  | [] => .ok ()
  | name :: rest =>
    if !isIdentifier name.toList then .error (.notIdentifier field name)
    else if seen.contains name then .error (.duplicateName field name)
    else checkNames field (name :: seen) rest

/-- Requires a number of different identifiers. -/
def checkCapabilities (field : String) (names : List String) (expected : Nat) :
    Except SettingsDefect Unit :=
  if names.length = expected then checkNames field [] names
  else .error (.nameCount field expected names.length)

namespace Settings

/-- Whether a text may stand between quotation marks as it is. -/
def isEmbeddable (id : Text) : Bool :=
  !id.isEmpty && id.all fun c => c != '"' && c != '\\' && !Unicode.isControl c

/-- The first thing that is wrong with settings. -/
def check (s : Settings) : Except SettingsDefect Unit := do
  if s.hookRoot.toList.all Unicode.isSpace then .error .blankNamespace
  if !isIdentifier s.anchorKey.toList then .error (.anchorKey s.anchorKey)
  if !isEmbeddable s.colourInputId.toList then .error (.colourInputId s.colourInputId)
  checkCapabilities "update_capabilities" s.updateCapabilities ResetShape.updateCount
  checkCapabilities "selection_capabilities" s.selectionCapabilities ResetShape.slotCount

/-- Requires that nothing is wrong with settings. -/
def validate (s : Settings) : Except PatchError Unit :=
  match s.check with
  | .ok () => .ok ()
  | .error defect => .error (.settings defect)

/-- The hook namespace that settings describe. -/
def hookNamespace (s : Settings) : HookNamespace where
  root := s.hookRoot
  updateCapabilities := s.updateCapabilities
  selectionCapabilities := s.selectionCapabilities

end Settings

end HookGraft

import HookGraft.Pipeline.Basic
import HookGraft.Rule.ChatListener
import HookGraft.Rule.ColourPicker
import HookGraft.Rule.MapEncoder
import HookGraft.Rule.MapObject
import HookGraft.Rule.ResetState
import HookGraft.Rule.UndoHistory
import HookGraft.Settings.Basic

/-!
# The standard pipeline

The rules that inject all hooks, in an order in which each finds what it needs.

## Main definitions

* `Settings.standardRules`: the rules
* `Pipeline.standard`: the pipeline
* `patch`: patches a text
-/

namespace HookGraft

/-- The rules that inject all hooks. -/
def Settings.standardRules (s : Settings) : Except PatchError (List Rule) := do
  let resetState ← ResetState.rule? s.selectionCapabilities s.updateCapabilities
  return [
    MapObject.rule s.anchorKey,
    MapEncoder.rule,
    resetState,
    UndoHistory.rule,
    ChatListener.rule,
    ColourPicker.rule s.colourInputId]

/-- The pipeline that injects all hooks. -/
def Pipeline.standard (s : Settings) : Except PatchError Pipeline := do
  s.validate
  let rules ← s.standardRules
  let empty : Pipeline :=
    { hooks := s.hookNamespace, declareNamespace := s.declareNamespace }
  let pipeline := rules.foldl Pipeline.addRule empty
  pipeline.validate
  return pipeline

/-- Patches a text with the rules that inject all hooks. -/
def patch (raw : Text) (s : Settings) : Except PatchError PatchOutcome := do
  ((← Pipeline.standard s).run raw).1

end HookGraft

import HookGraft.Pipeline.Standard
import HookGraft.Proofs.Pipeline.Declarations

/-!
# The standard pipeline

Settings in which nothing is wrong give a pipeline of six rules, whose declarations are sound by the
order in which the rules stand.

## Main definitions

* `Settings.Valid`: settings in which nothing is wrong
* `Settings.pipeline`: the standard pipeline, for whatever settings

## Main results

* `Settings.checkNames_eq_ok`: names that pass the check are different identifiers
* `Pipeline.standard_eq_ok`: settings in which nothing is wrong give the standard pipeline
* `Pipeline.standard_eq_error_iff`: no other failure than that of the settings
-/

namespace HookGraft

/-! ## Settings in which nothing is wrong -/

namespace Settings

variable {s : Settings} {field : String} {names seen : List String} {expected : Nat}

/-- Names that pass the check are different identifiers, none of which has been seen before. -/
theorem checkNames_eq_ok (h : checkNames field seen names = .ok ()) :
    (∀ name ∈ names, isIdentifier name.toList = true) ∧ names.Nodup ∧
      ∀ name ∈ names, name ∉ seen := by
  induction names generalizing seen with
  | nil => exact ⟨nofun, List.nodup_nil, nofun⟩
  | cons name rest ih =>
    simp only [checkNames] at h
    split at h
    · contradiction
    · rename_i identifier
      split at h
      · contradiction
      · rename_i new
        obtain ⟨identifiers, distinct, others⟩ := ih h
        refine ⟨List.forall_mem_cons.2 ⟨by simpa using identifier, identifiers⟩, ?_, ?_⟩
        · exact List.nodup_cons.2 ⟨fun again => others name again List.mem_cons_self, distinct⟩
        · refine List.forall_mem_cons.2 ⟨by simpa using new, fun other member old => ?_⟩
          exact others other member (List.mem_cons_of_mem name old)

theorem checkCapabilities_eq_ok (h : checkCapabilities field names expected = .ok ()) :
    names.length = expected ∧ checkNames field [] names = .ok () := by
  unfold checkCapabilities at h
  split at h
  · exact ⟨‹_›, h⟩
  · contradiction

/-- What holds of settings in which nothing is wrong. -/
structure Valid (s : Settings) : Prop where
  key : isIdentifier s.anchorKey.toList = true
  six : s.updateCapabilities.length = ResetShape.updateCount
  three : s.selectionCapabilities.length = ResetShape.slotCount
  updates : checkNames "update_capabilities" [] s.updateCapabilities = .ok ()
  selections : checkNames "selection_capabilities" [] s.selectionCapabilities = .ok ()

theorem valid_of_validate (h : s.validate = .ok ()) : s.Valid := by
  unfold validate at h
  split at h
  · rename_i checked
    simp only [check, Except.check_eq_ok, Except.bind_eq_ok] at checked
    obtain ⟨-, key, -, ⟨⟩, updates, selections⟩ := checked
    obtain ⟨six, updates⟩ := checkCapabilities_eq_ok updates
    obtain ⟨three, selections⟩ := checkCapabilities_eq_ok selections
    exact ⟨by simpa using key, six, three, updates, selections⟩
  · contradiction

/-! ## The rules -/

/-- The standard pipeline before its declarations are checked, for whatever settings. -/
def pipeline (s : Settings) : Pipeline where
  hooks := s.hookNamespace
  declareNamespace := s.declareNamespace
  rules := [
    MapObject.rule s.anchorKey,
    MapEncoder.rule,
    ResetState.ruleFor s.selectionCapabilities s.updateCapabilities,
    UndoHistory.rule,
    ChatListener.rule,
    ColourPicker.rule s.colourInputId]
  stats := [
    { ruleName := MapObject.name },
    { ruleName := MapEncoder.name },
    { ruleName := ResetState.name },
    { ruleName := UndoHistory.name },
    { ruleName := ChatListener.name },
    { ruleName := ColourPicker.name }]

namespace Valid

theorem nodup_updates (valid : s.Valid) : s.updateCapabilities.Nodup :=
  (checkNames_eq_ok valid.updates).2.1

theorem nodup_selections (valid : s.Valid) : s.selectionCapabilities.Nodup :=
  (checkNames_eq_ok valid.selections).2.1

/-- The rules are standard ones. -/
theorem isStandard (valid : s.Valid) : ∀ rule ∈ s.pipeline.rules, rule.IsStandard := by
  have made := ResetState.rule?_of_length valid.three valid.six
  refine List.forall_mem_cons.2 ⟨.mapObject s.anchorKey, ?_⟩
  refine List.forall_mem_cons.2 ⟨.mapEncoder, ?_⟩
  refine List.forall_mem_cons.2 ⟨.resetState made, ?_⟩
  refine List.forall_mem_cons.2 ⟨.undoHistory, ?_⟩
  refine List.forall_mem_cons.2 ⟨.chatListener, ?_⟩
  exact List.forall_mem_singleton.2 (.colourPicker s.colourInputId)

theorem standardRules (valid : s.Valid) : s.standardRules = .ok s.pipeline.rules := by
  rw [Settings.standardRules, ResetState.rule?_of_length valid.three valid.six]
  rfl

/-- Each rule stands behind those that bind what it needs. -/
theorem validate (valid : s.Valid) : s.pipeline.validate = .ok () := by
  have made := ResetState.rule?_of_length valid.three valid.six
  refine checkRules_of_isStandard (.mapObject s.anchorKey) (by simp) (List.nil_subset _) ?_
  refine checkRules_of_isStandard .mapEncoder (by simp) ?_ ?_
  · show [Identifier.mapObject] ⊆ [_] ++ [Identifier.mapObject, _]
    simp
  refine checkRules_of_isStandard (.resetState made) (by simp) (List.nil_subset _) ?_
  refine checkRules_of_isStandard .undoHistory (by simp) ?_ ?_
  · show [Identifier.mapContainer, Identifier.mapObject] ⊆
      [_] ++ [Identifier.mapObject, Identifier.mapContainer] ++ _ ++ _
    simp
  refine checkRules_of_isStandard .chatListener (by simp) (List.nil_subset _) ?_
  exact checkRules_of_isStandard (.colourPicker s.colourInputId) (by simp) (List.nil_subset _) rfl

end Valid

end Settings

namespace Pipeline

variable {s : Settings}

/-- Settings in which nothing is wrong give the standard pipeline. -/
theorem standard_eq_ok (valid : s.validate = .ok ()) : standard s = .ok s.pipeline := by
  have holds := Settings.valid_of_validate valid
  rw [standard, valid]
  refine Except.bind_eq_ok.2 ⟨(), rfl, Except.bind_eq_ok.2 ⟨_, holds.standardRules, ?_⟩⟩
  exact Except.bind_eq_ok.2 ⟨(), holds.validate, rfl⟩

/-- The standard pipeline fails only as the settings do. -/
theorem standard_eq_error_iff {e : PatchError} :
    standard s = .error e ↔ s.validate = .error e := by
  cases checked : s.validate with
  | ok =>
    rw [standard_eq_ok checked]
    exact ⟨fun h => by contradiction, fun h => by contradiction⟩
  | error e' =>
    have failed : standard s = .error e' := by
      rw [standard, checked]
      rfl
    rw [failed]
    exact ⟨fun h => congrArg _ (Except.error.inj h), fun h => congrArg _ (Except.error.inj h)⟩

/-- The run of the standard pipeline is all that there is to patching. -/
theorem patch_eq (valid : s.validate = .ok ()) (raw : Text) :
    patch raw s = (s.pipeline.run raw).1 := by
  rw [patch, standard_eq_ok valid]
  rfl

end Pipeline

end HookGraft

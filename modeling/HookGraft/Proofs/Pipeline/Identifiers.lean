import HookGraft.Proofs.Pipeline.Runs

/-!
# What patching binds

A standard rule binds the names that it declares and changes nothing else, whether it succeeds or
not. The names of a whole run are therefore known beforehand, and so is their order.

## Main definitions

* `Settings.identifierNames`: the names that a run binds

## Main results

* `Settings.Valid.nodup_identifierNames`: no name comes twice
* `Settings.Valid.names_of_executes`: the names after a run
* `Settings.binds_declared`: what each standard rule binds, and what a run of all of them does
-/

namespace HookGraft

/-! ## The names of a run -/

namespace Settings

/-- The names that a run binds before those that the capabilities give. -/
def earlierNames : List String :=
  ["ns", "map_object", "map_container", "map_encoder", "reset_routine"]

/-- The names that a run binds behind those that the capabilities give. -/
def laterNames : List String := ["undo_routine", "colour_picker_key"]

/-- The names that a run binds, in their order. -/
def identifierNames (s : Settings) : List String :=
  earlierNames ++ s.updateCapabilities.map ("update." ++ ·) ++
    s.selectionCapabilities.map ("selection." ++ ·) ++ laterNames

/-- The rules of the standard pipeline, with the names that each of them binds in order. -/
def boundNames (s : Settings) : List (Rule × List String) := [
  (MapObject.rule s.anchorKey, [Identifier.mapObject, Identifier.mapContainer]),
  (MapEncoder.rule, [Identifier.mapEncoder]),
  (ResetState.ruleFor s.selectionCapabilities s.updateCapabilities,
    ResetState.bound s.selectionCapabilities s.updateCapabilities),
  (UndoHistory.rule, [Identifier.undoRoutine]),
  (ChatListener.rule, []),
  (ColourPicker.rule s.colourInputId, [Identifier.colourPickerKey])]

variable {s : Settings} {name : String}

theorem identifierNames_eq : s.identifierNames = "ns" :: s.boundNames.flatMap Prod.snd := by
  show earlierNames ++ s.updateCapabilities.map Identifier.update ++
      s.selectionCapabilities.map Identifier.selection ++ laterNames =
    earlierNames ++ ((s.updateCapabilities.map Identifier.update ++
      s.selectionCapabilities.map Identifier.selection) ++ laterNames)
  simp only [List.append_assoc]

theorem update_ne_fixed (fixed : name ∈ earlierNames ++ laterNames) (capability : String) :
    Identifier.update capability ≠ name := by
  have other : ∀ name ∈ earlierNames ++ laterNames, ¬ "update.".toList <+: name.toList := by decide
  exact ResetState.update_ne (other name fixed) capability

theorem selection_ne_fixed (fixed : name ∈ earlierNames ++ laterNames) (capability : String) :
    Identifier.selection capability ≠ name := by
  have other : ∀ name ∈ earlierNames ++ laterNames, ¬ "selection.".toList <+: name.toList := by
    decide
  exact ResetState.selection_ne (other name fixed) capability

namespace Valid

/-- No name comes twice. -/
theorem nodup_identifierNames (valid : s.Valid) : s.identifierNames.Nodup := by
  have updates : (s.updateCapabilities.map Identifier.update).Nodup :=
    List.pairwise_map.2 <| valid.nodup_updates.imp
      fun distinct same => distinct (Identifier.update_injective same)
  have selections : (s.selectionCapabilities.map Identifier.selection).Nodup :=
    List.pairwise_map.2 <| valid.nodup_selections.imp
      fun distinct same => distinct (Identifier.selection_injective same)
  refine List.nodup_append.2 ⟨List.nodup_append.2 ⟨List.nodup_append.2 ⟨by decide, updates, ?_⟩,
    selections, ?_⟩, by decide, ?_⟩
  · rintro name fixed _ isUpdate
    obtain ⟨c, -, rfl⟩ := List.mem_map.1 isUpdate
    exact (update_ne_fixed (List.mem_append_left _ fixed) c).symm
  · rintro name earlier _ isSelection
    obtain ⟨c, -, rfl⟩ := List.mem_map.1 isSelection
    rcases List.mem_append.1 earlier with fixed | isUpdate
    · exact (selection_ne_fixed (List.mem_append_left _ fixed) c).symm
    · obtain ⟨d, -, rfl⟩ := List.mem_map.1 isUpdate
      exact Identifier.update_ne_selection d c
  · rintro name earlier last fixed
    rcases List.mem_append.1 earlier with earlier | isSelection
    · rcases List.mem_append.1 earlier with first | isUpdate
      · have apart : ∀ name ∈ earlierNames, ∀ last ∈ laterNames, name ≠ last := by decide
        exact apart name first last fixed
      · obtain ⟨c, -, rfl⟩ := List.mem_map.1 isUpdate
        exact update_ne_fixed (List.mem_append_right _ fixed) c
    · obtain ⟨c, -, rfl⟩ := List.mem_map.1 isSelection
      exact selection_ne_fixed (List.mem_append_right _ fixed) c

/-- Each rule of the standard pipeline binds its own names. -/
theorem gains_of_boundNames (valid : s.Valid) : ∀ entry ∈ s.boundNames, ∀ text b o b',
    (entry.1.apply text).on b = (.ok o, b') → b.Gains entry.2 b' := by
  refine List.forall_mem_cons.2 ⟨fun text b o b' done =>
    ((MapObject.apply_meets s.anchorKey text b).success o b' done).1, ?_⟩
  refine List.forall_mem_cons.2 ⟨fun text b o b' done =>
    ((MapEncoder.apply_meets text b).success o b' done).1, ?_⟩
  refine List.forall_mem_cons.2 ⟨fun text b o b' done =>
    ((ResetState.apply_meets valid.three valid.six text b).success o b' done).1, ?_⟩
  refine List.forall_mem_cons.2 ⟨fun text b o b' done =>
    ((UndoHistory.apply_meets text b).success o b' done).1, ?_⟩
  refine List.forall_mem_cons.2 ⟨fun text b o b' done =>
    ((ChatListener.apply_meets text b).success o b' done).1, ?_⟩
  exact List.forall_mem_singleton.2 fun text b o b' done =>
    ((ColourPicker.apply_meets s.colourInputId text b).success o b' done).1

/-- The names after a run. -/
theorem names_of_executes (valid : s.Valid) {raw text root : Text} {b : Bindings}
    (run : Executes s.pipeline.rules raw (Bindings.seeded root) text b) :
    b.names = s.identifierNames := by
  have gained := Executes.gains s.boundNames run valid.gains_of_boundNames
  have distinct := valid.nodup_identifierNames
  rw [identifierNames_eq, List.nodup_cons] at distinct
  rw [identifierNames_eq]
  refine gained.names_eq (fun name own seeded => ?_) distinct.2
  obtain rfl : name = "ns" := List.mem_singleton.1 seeded
  exact distinct.1 own

end Valid

/-- A standard rule that succeeds binds exactly what it declares. Whether it succeeds or not, it
changes nothing else; what it binds for one fragment only is not declared, and is not bound in the
end. So the names after a run of the standard pipeline are known, and none comes twice. -/
theorem binds_declared :
    (∀ rule : Rule, rule.IsStandard → ∀ text b,
      (∀ o b', (rule.apply text).on b = (.ok o, b') →
        ∀ name, name ∈ b'.names ↔ name ∈ b.names ∨ name ∈ rule.produces) ∧
      (∀ result b', (rule.apply text).on b = (result, b') → b.Extends rule.produces b') ∧
      ∀ name ∈ rule.locals, name ∉ rule.produces) ∧
    ∀ (s : Settings) (raw : Text) (o : PatchOutcome), s.validate = .ok () → patch raw s = .ok o →
      o.report.identifiers.names =
        ["ns", "map_object", "map_container", "map_encoder", "reset_routine"] ++
          s.updateCapabilities.map ("update." ++ ·) ++
          s.selectionCapabilities.map ("selection." ++ ·) ++
          ["undo_routine", "colour_picker_key"] ∧
      o.report.identifiers.names.Nodup ∧
      s.updateCapabilities.length = 6 ∧ s.selectionCapabilities.length = 3 := by
  refine ⟨fun rule standard text b => ⟨?_, ?_, ?_⟩, fun s raw o checked done => ?_⟩
  · intro o b' done name
    obtain ⟨gained, same, gains⟩ := (standard.meets text b).success o b' done
    rw [gains.mem_names, same]
  · intro result b' ran
    cases result with
    | ok o =>
      obtain ⟨gained, same, gains⟩ := (standard.meets text b).success o b' ran
      exact gains.frame _ fun name member => (same name).1 member
    | error e => exact ((standard.meets text b).failure e b' ran).1
  · exact standard.local_not_produced
  · have valid := valid_of_validate checked
    rw [Pipeline.patch_eq checked] at done
    obtain ⟨text, -, run⟩ := Pipeline.executes_of_run done
    exact ⟨valid.names_of_executes run, o.report.identifiers.nodup, valid.six, valid.three⟩

/-- What the sample binds, and what a rule leaves that lacks what it needs. -/
theorem binds_declared_of_sample :
    Sample.settings.validate = .ok () ∧ (∃ o, patch Sample.source Sample.settings = .ok o ∧
      o.report.identifiers.names =
        ["ns", "map_object", "map_container", "map_encoder", "reset_routine", "update.A",
          "update.B", "update.C", "update.D", "update.E", "update.F", "selection.A", "selection.B",
          "selection.C", "undo_routine", "colour_picker_key"]) ∧
      Bindings.empty.Extends UndoHistory.rule.produces
        ((UndoHistory.rule.apply Sample.source).on .empty).2 := by
  obtain ⟨frames, names⟩ := binds_declared
  have valid : Sample.settings.validate = .ok () := by rfl
  obtain ⟨o, done⟩ := Sample.patched
  refine ⟨valid, ⟨o, done, (names Sample.settings Sample.source o valid done).1⟩, ?_⟩
  exact (frames UndoHistory.rule .undoHistory Sample.source .empty).2.1 _ _ rfl

end Settings

end HookGraft

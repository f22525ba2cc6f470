import HookGraft.Proofs.Rule.Basic
import HookGraft.Rule.UndoHistory

/-!
# What the undo history rule does

The rule binds the routine that saves a snapshot. It puts the registration in front of the routine
and loses nothing.

## Main results

* `UndoHistory.apply_meets`: the specification of the rule
-/

namespace HookGraft

/-- A fragment that does not begin with a routine is malformed. -/
theorem routineName_error {rule : String} {fragment : Text} {e : PatchError}
    (h : routineName rule fragment = .error e) : ∃ defect, e = .malformedFragment rule defect := by
  simp only [routineName] at h
  split at h
  · exact ⟨_, (Except.error.inj h).symm⟩
  · split at h
    · contradiction
    · exact ⟨_, (Except.error.inj h).symm⟩

namespace UndoHistory

open Discovery

theorem parameters_routine : routine.template.parameters = ["map_container", "map_object"] := by rfl

theorem parameters_registration : registration.parameters = ["ns", "undo_routine", "fragment"] := by
  rfl

/-- Without the container or the slot of the map the signature is not compiled. -/
theorem compile_routine_error {b : Bindings}
    (missing : b.get? Identifier.mapContainer = none ∨ b.get? Identifier.mapObject = none) :
    ∃ e, routine.compile name b = .error e ∧ rule.Unbound b e := by
  refine Rule.unbound_of_compile rule (by simp [rule]) ?_ (by decide)
  rw [parameters_routine]
  rcases missing with container | object
  · exact ⟨_, List.mem_cons_self, container⟩
  · exact ⟨_, List.mem_cons_of_mem _ (List.mem_singleton_self _), object⟩

/-- The rule binds the routine, and loses nothing of the text. -/
theorem apply_meets (text : Text) (b : Bindings) :
    Meets (apply text) b
      (fun o b' => b.Gains [Identifier.undoRoutine] b' ∧ text.Sublist o.text)
      (fun e b' => b.Extends rule.produces b' ∧
        (rule.NotFound e ∨ rule.Malformed e ∨ rule.Oversized e ∨ rule.Unbound b e)) := by
  refine .get ?_
  by_cases bound : (∃ container, b.get? Identifier.mapContainer = some container) ∧
    ∃ object, b.get? Identifier.mapObject = some object
  · obtain ⟨⟨container, boundContainer⟩, object, boundObject⟩ := bound
    obtain ⟨pattern, standsFor⟩ := routine_standsFor boundContainer boundObject
    refine Rule.meets_compile rule standsFor rfl (by simp [rule])
      (fun e large => ⟨.refl _ b, .inr (.inr (.inl large))⟩) (.lift (fun found search => ?_) ?_)
    · obtain ⟨isMatch, before, pass⟩ := Locator.first_sound search
      obtain ⟨part, inside⟩ := isMatch.passes
      refine .lift (fun routine named => .bind (.get ?_)) ?_
      · have gained : b.Gains [Identifier.undoRoutine] (b.bind Identifier.undoRoutine routine) :=
          Bindings.Gains.single b Identifier.undoRoutine routine
        have changed := gained.frame rule.produces (List.Subset.refl _)
        refine .lift (fun code rendered => .pure ⟨gained, ?_⟩) fun e failed => ?_
        · refine Extent.sublist_replace pass inside ?_
          rw [← inside.extent_text]
          have speaks : Identifier.fragment ∈ registration.parameters := by
            rw [parameters_registration]
            decide
          exact (Template.infix_of_render rendered speaks Bindings.get?_bind_self).sublist
        · refine ⟨changed, .inr (.inr (.inr (Rule.unbound_of_render (t := registration) failed
            (by simp [rule]) ?_ ?_)))⟩
          · exact List.Subset.trans changed.subset (Bindings.names_subset_bind _ _)
          · rw [parameters_registration]
            simp [rule, Identifier.undoRoutine, Identifier.fragment]
      · exact fun e failed => ⟨.refl _ b, .inr (.inl (routineName_error failed))⟩
    · exact fun e failed => ⟨.refl _ b, .inl (Rule.notFound_of_first failed rfl)⟩
  · obtain ⟨e, failed, unbound⟩ := compile_routine_error (b := b) (by
      rcases container : b.get? Identifier.mapContainer with _ | container
      · exact .inl rfl
      · rcases object : b.get? Identifier.mapObject with _ | object
        · exact .inr rfl
        · exact absurd ⟨⟨_, container⟩, _, object⟩ bound)
    exact .lift_error failed ⟨.refl _ b, .inr (.inr (.inr unbound))⟩

end UndoHistory

end HookGraft

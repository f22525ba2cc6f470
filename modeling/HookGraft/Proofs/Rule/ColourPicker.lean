import HookGraft.Proofs.Rule.Basic
import HookGraft.Rule.ColourPicker

/-!
# What the colour picker rule does

The rule binds the expression for the key of the colour picker. It puts code around the body of the
picker and loses nothing.

## Main results

* `ColourPicker.apply_meets`: the specification of the rule
-/

namespace HookGraft.ColourPicker

open Discovery

theorem parameters_body :
    body.parameters = ["ns", "colour_input", "fragment", "colour_picker_key"] := by rfl

/-- There is more than one picker that the helper follows. -/
def Ambiguous (e : PatchError) : Prop := ∃ what actual, e = .unexpectedShape name what 1 actual

/-- The rule binds the key, and loses nothing of the text. -/
theorem apply_meets (inputId : String) (text : Text) (b : Bindings) :
    Meets (apply inputId text) b
      (fun o b' => b.Gains [Identifier.colourPickerKey] b' ∧ text.Sublist o.text)
      (fun e b' => b.Extends (rule inputId).produces b' ∧
        ((rule inputId).NotFound e ∨ Ambiguous e ∨ (rule inputId).Unbound b e)) := by
  refine .get (.lift_ok (compile_picker name b) (.lift (fun found search => ?_) ?_))
  · obtain ⟨isMatch, before, pass⟩ := Locator.unique_sound search
    obtain ⟨key, inHead⟩ := isMatch.exists_group (n := 1) (by decide)
    obtain ⟨mid, marks, inRest, first, last⟩ := isMatch.group_last rfl
    obtain ⟨start, ahead⟩ := first.passes
    obtain ⟨inner, inside⟩ := last.passes
    refine .lift_ok (Match.capture_eq_ok name inHead) (.lift_ok (Match.capture_eq_ok name inRest)
      (.lift_ok (Match.captureSpan_eq_ok name inRest) (.bind (.get ?_))))
    have gained : b.Gains [Identifier.colourPickerKey]
        (b.bind Identifier.colourPickerKey key.text) :=
      Bindings.Gains.single b Identifier.colourPickerKey key.text
    have changed := gained.frame (rule inputId).produces (List.Subset.refl _)
    refine .lift (fun code rendered => .pure ⟨gained, ?_⟩) fun e failed => ?_
    · refine Extent.sublist_replace (pass.trans ahead) inside ?_
      rw [← inside.extent_text]
      have speaks : Identifier.fragment ∈ body.parameters := by
        rw [parameters_body]
        decide
      refine (Template.infix_of_render rendered speaks ?_).sublist
      exact Bindings.get?_bind_bind (by decide)
    · refine ⟨changed, .inr (.inr (Rule.unbound_of_render (t := body) failed
        (by simp [rule]) ?_ ?_))⟩
      · exact List.Subset.trans changed.subset (List.Subset.trans
          (Bindings.names_subset_bind _ _) (Bindings.names_subset_bind _ _))
      · rw [parameters_body]
        simp [rule, Identifier.colourPickerKey, Identifier.fragment, colourInput]
  · intro e failed
    rcases Locator.unique_error failed with rfl | ⟨actual, rfl⟩
    · exact ⟨.refl _ b, .inl ⟨_, rfl⟩⟩
    · exact ⟨.refl _ b, .inr (.inl ⟨_, actual, rfl⟩)⟩

end HookGraft.ColourPicker

import HookGraft.Proofs.Rule.ChatListener
import HookGraft.Proofs.Rule.ColourPicker
import HookGraft.Proofs.Rule.MapEncoder
import HookGraft.Proofs.Rule.MapObject
import HookGraft.Proofs.Rule.ResetState

/-!
# What the standard rules have in common

Each standard rule binds the names that it declares, changes nothing else, and fails only because
the program has another shape, because a pattern is too large or because a parameter is missing that
nothing provides.

## Main definitions

* `Rule.IsStandard`: the standard rules, for whatever they are made with
* `Rule.scope`: the names that a rule may speak of

## Main results

* `Rule.IsStandard.meets`: the specification that all standard rules share
* `Rule.IsStandard.scoped`: the templates of a standard rule speak of nothing else
-/

namespace HookGraft.Rule

open Discovery

/-- The standard rules, for all keys, names and identities that they can be made with. -/
inductive IsStandard : Rule → Prop where
  | mapObject (key : String) : IsStandard (MapObject.rule key)
  | mapEncoder : IsStandard MapEncoder.rule
  | resetState {selection update : List String} {rule : Rule} :
    ResetState.rule? selection update = .ok rule → IsStandard rule
  | undoHistory : IsStandard UndoHistory.rule
  | chatListener : IsStandard ChatListener.rule
  | colourPicker (inputId : String) : IsStandard (ColourPicker.rule inputId)

variable {rule : Rule} {b b' : Bindings} {e : PatchError}

theorem NotFound.isFormatDrift (h : rule.NotFound e) : e.isFormatDrift = true := by
  obtain ⟨pattern, rfl⟩ := h
  rfl

theorem Malformed.isFormatDrift (h : rule.Malformed e) : e.isFormatDrift = true := by
  obtain ⟨defect, rfl⟩ := h
  rfl

theorem Misshapen.isFormatDrift (h : rule.Misshapen e) : e.isFormatDrift = true := by
  obtain ⟨what, expected, actual, rfl⟩ := h
  rfl

/-- The bindings in which a rule has bound the names that it declares, in one order or another. -/
def Provides (rule : Rule) (b b' : Bindings) : Prop :=
  ∃ gained : List String, (∀ name, name ∈ gained ↔ name ∈ rule.produces) ∧ b.Gains gained b'

/-- What a standard rule does to the bindings, and why it may fail. -/
theorem IsStandard.meets (standard : rule.IsStandard) (text : Text) (b : Bindings) :
    Meets (rule.apply text) b (fun _ b' => rule.Provides b b')
      (fun e b' => b.Extends rule.produces b' ∧
        (e.isFormatDrift = true ∨ rule.Oversized e ∨ rule.Unbound b e)) := by
  cases standard with
  | mapObject key =>
    refine (MapObject.apply_meets key text b).mono (fun _ _ h => ⟨_, fun _ => Iff.rfl, h.1⟩) ?_
    rintro e b' ⟨changed, (drift | ⟨-, drift⟩) | other⟩
    · exact ⟨changed, .inl drift.isFormatDrift⟩
    · exact ⟨changed, .inl drift⟩
    · exact ⟨changed, .inr other⟩
  | mapEncoder =>
    refine (MapEncoder.apply_meets text b).mono (fun _ _ h => ⟨_, fun _ => Iff.rfl, h.1⟩) ?_
    rintro e b' ⟨changed, drift | other⟩
    · exact ⟨changed, .inl drift.isFormatDrift⟩
    · exact ⟨changed, .inr other⟩
  | resetState made =>
    obtain ⟨three, six, rfl⟩ := ResetState.rule?_eq_ok made
    refine (ResetState.apply_meets three six text b).mono (fun _ _ h => ⟨_, ?_, h.1⟩) ?_
    · exact ResetState.mem_bound_iff
    · rintro e b' ⟨changed, drift | drift | drift | unbound⟩
      · exact ⟨changed, .inl drift.isFormatDrift⟩
      · exact ⟨changed, .inl drift.isFormatDrift⟩
      · exact ⟨changed, .inl drift.isFormatDrift⟩
      · exact ⟨changed, .inr (.inr unbound)⟩
  | undoHistory =>
    refine (UndoHistory.apply_meets text b).mono (fun _ _ h => ⟨_, fun _ => Iff.rfl, h.1⟩) ?_
    rintro e b' ⟨changed, drift | drift | other⟩
    · exact ⟨changed, .inl drift.isFormatDrift⟩
    · exact ⟨changed, .inl drift.isFormatDrift⟩
    · exact ⟨changed, .inr other⟩
  | chatListener =>
    refine (ChatListener.apply_meets text b).mono (fun _ _ h => ⟨_, fun _ => Iff.rfl, h.1⟩) ?_
    rintro e b' ⟨rfl, drift⟩
    exact ⟨.refl _ _, .inl drift.isFormatDrift⟩
  | colourPicker inputId =>
    refine (ColourPicker.apply_meets inputId text b).mono
      (fun _ _ h => ⟨_, fun _ => Iff.rfl, h.1⟩) ?_
    rintro e b' ⟨changed, drift | ⟨what, actual, rfl⟩ | unbound⟩
    · exact ⟨changed, .inl drift.isFormatDrift⟩
    · exact ⟨changed, .inl rfl⟩
    · exact ⟨changed, .inr (.inr unbound)⟩

/-! ## What the templates speak of -/

/-- The names that a rule may speak of: the namespace, what it needs, and what it binds. -/
def scope (rule : Rule) : List String :=
  Bindings.namespaceName :: (rule.requires ++ rule.produces ++ rule.locals)

/-- The templates of a standard rule speak of nothing but what is in its scope. -/
theorem IsStandard.scoped (standard : rule.IsStandard) :
    ∀ t ∈ rule.templates, t.parameters ⊆ rule.scope := by
  cases standard with
  | mapObject key =>
    refine List.forall_mem_cons.2 ⟨List.nil_subset _, ?_⟩
    show ∀ t ∈ [MapObject.assignment.template, MapObject.copied],
      t.parameters ⊆ (MapObject.rule "").scope
    decide
  | mapEncoder => decide
  | resetState made =>
    obtain ⟨-, -, rfl⟩ := ResetState.rule?_eq_ok made
    have closed : ∀ t ∈ [ResetState.routine.template, HookCode.updateWrapper,
        HookCode.selectionAccessors], t.parameters ⊆ "ns" :: HookCode.locals := by
      decide
    intro t own name parameter
    rcases List.mem_cons.1 (closed t own parameter) with rfl | isLocal
    · exact List.mem_cons_self
    · exact List.mem_cons_of_mem _ (List.mem_append_right _ isLocal)
  | undoHistory => decide
  | chatListener => decide
  | colourPicker inputId =>
    show ∀ t ∈ [ColourPicker.picker.template, ColourPicker.body], t.parameters ⊆
      [Bindings.namespaceName, Identifier.colourPickerKey, Identifier.fragment,
        ColourPicker.colourInput]
    decide

/-- What a standard rule binds for one fragment only is none of the names that it declares. -/
theorem IsStandard.local_not_produced (standard : rule.IsStandard) :
    ∀ name ∈ rule.locals, name ∉ rule.produces := by
  cases standard with
  | mapObject key =>
    show ∀ name ∈ [Identifier.fragment], name ∉ [Identifier.mapObject, Identifier.mapContainer]
    decide
  | mapEncoder => exact fun name isLocal => absurd isLocal List.not_mem_nil
  | resetState made =>
    obtain ⟨-, -, rfl⟩ := ResetState.rule?_eq_ok made
    intro name isLocal
    have apart : ∀ name ∈ HookCode.locals, name ≠ Identifier.resetRoutine ∧
      ¬ "update.".toList <+: name.toList ∧ ¬ "selection.".toList <+: name.toList := by decide
    obtain ⟨routine, noUpdate, noSelection⟩ := apart name isLocal
    exact ResetState.not_mem_produces routine noUpdate noSelection _ _
  | undoHistory => decide
  | chatListener => exact fun name isLocal => absurd isLocal List.not_mem_nil
  | colourPicker inputId =>
    show ∀ name ∈ [Identifier.fragment, ColourPicker.colourInput],
      name ∉ [Identifier.colourPickerKey]
    decide

end HookGraft.Rule

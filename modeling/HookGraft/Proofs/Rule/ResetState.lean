import HookGraft.Proofs.Fragment.ResetShape
import HookGraft.Proofs.Rule.UndoHistory
import HookGraft.Rule.ResetState

/-!
# What the reset state rule does

The rule binds the reset routine, the six routines that it calls and the three slots that it
clears. It puts the code for them behind the reset routine and loses nothing.

## Main results

* `ResetState.apply_meets`: the specification of the rule
-/

namespace HookGraft

/-! ## Names for capabilities -/

namespace Identifier

theorem update_injective {c d : String} (same : update c = update d) : c = d :=
  (String.append_right_inj _).1 same

theorem selection_injective {c d : String} (same : selection c = selection d) : c = d :=
  (String.append_right_inj _).1 same

theorem update_ne_selection (c d : String) : update c ≠ selection d := by
  intro same
  have heads := congrArg (fun name => name.toList.head?) same
  simp [update, selection] at heads

end Identifier

namespace ResetState

open Discovery

variable {selection update : List String} {resetRule : Rule} {b b' : Bindings}

/-- The rule for names of which there are as many as it needs. -/
def ruleFor (selection update : List String) : Rule where
  name := name
  description :=
    "Wraps the panel update routines and exposes the selection slots "
      ++ "cleared by the reset routine"
  produces := Identifier.resetRoutine :: selection.map Identifier.selection
    ++ update.map Identifier.update
  locals := HookCode.locals
  templates := [routine.template, HookCode.updateWrapper, HookCode.selectionAccessors]
  apply := apply selection update

theorem rule?_eq_ok (made : rule? selection update = .ok resetRule) :
    selection.length = ResetShape.slotCount ∧ update.length = ResetShape.updateCount ∧
      resetRule = ruleFor selection update := by
  simp only [rule?] at made
  split at made
  · contradiction
  · split at made
    · contradiction
    · rename_i three six
      exact ⟨Decidable.not_not.1 three, Decidable.not_not.1 six, (Except.ok.inj made).symm⟩

theorem rule?_of_length (three : selection.length = ResetShape.slotCount)
    (six : update.length = ResetShape.updateCount) :
    rule? selection update = .ok (ruleFor selection update) := by
  rw [rule?, if_neg (not_not_intro three), if_neg (not_not_intro six)]
  rfl

/-! ## Injected code -/

theorem update_ne {name : String} (other : ¬ "update.".toList <+: name.toList)
    (capability : String) : Identifier.update capability ≠ name := by
  rintro rfl
  exact other ⟨capability.toList, String.toList_append.symm⟩

theorem selection_ne {name : String} (other : ¬ "selection.".toList <+: name.toList)
    (capability : String) : Identifier.selection capability ≠ name := by
  rintro rfl
  exact other ⟨capability.toList, String.toList_append.symm⟩

/-- Names that the rule does not declare. -/
theorem not_mem_produces {name : String} (routine : name ≠ Identifier.resetRoutine)
    (noUpdate : ¬ "update.".toList <+: name.toList)
    (noSelection : ¬ "selection.".toList <+: name.toList) (selection update : List String) :
    name ∉ (ruleFor selection update).produces := by
  simp [ruleFor, routine, update_ne noUpdate, selection_ne noSelection]

/-- The namespace is not among the names that the rule provides. -/
theorem namespace_not_provided (selection update : List String) :
    "ns" ∉ (ruleFor selection update).produces ++ (ruleFor selection update).locals := by
  rw [List.mem_append, not_or]
  exact ⟨not_mem_produces (by decide) (by decide) (by decide) selection update,
    show "ns" ∉ HookCode.locals by decide⟩

/-- What holds when the code for a piece cannot be rendered. -/
def Unrendered (selection update : List String) (b : Bindings) (e : PatchError) (b' : Bindings) :
    Prop :=
  b.Extends (ruleFor selection update).produces b' ∧ (ruleFor selection update).Unbound b e

/-- A piece is bound, and its code is rendered unless the namespace is missing. -/
theorem inject_meets (t : Template) (piece : String) {name capability : String} {value : Text}
    {gained : List String} (before : b.Gains gained b')
    (sub : gained ⊆ (ruleFor selection update).produces)
    (declared : name ∈ (ruleFor selection update).produces)
    (own : t ∈ (ruleFor selection update).templates)
    (parameters : ∀ other ∈ t.parameters, other = "ns" ∨ other = piece ∨ other = "capability") :
    Meets (do
        Discovery.bind name value
        let b ← get
        t.render ((b.bind piece value).bind "capability" capability.toList) .raw) b'
      (fun _ b'' => b.Gains (gained ++ [name]) b'') (Unrendered selection update b) := by
  have gain := before.bind name value
  have changed := gain.frame (ruleFor selection update).produces
    (List.append_subset.2 ⟨sub, List.cons_subset.2 ⟨declared, List.nil_subset _⟩⟩)
  refine .bind (.get (.last (fun _ _ => gain) fun e failed => ⟨changed, ?_⟩))
  refine Rule.unbound_of_render failed own ?_ fun other parameter provided => ?_
  · exact List.Subset.trans changed.subset (List.Subset.trans
      (Bindings.names_subset_bind _ _) (Bindings.names_subset_bind _ _))
  · rcases parameters other parameter with rfl | rfl | rfl
    · exact absurd provided (namespace_not_provided selection update)
    · simp
    · simp

/-- The names that pieces are bound to, each by its capability. -/
def namesFor (named : String → String) (pieces : List (Text × String)) : List String :=
  pieces.map fun piece => named piece.2

theorem namesFor_append (named : String → String) (done more : List (Text × String)) :
    namesFor named (done ++ more) = namesFor named done ++ namesFor named more :=
  List.map_append

theorem namesFor_zip {named : String → String} {pieces : List Text} {capabilities : List String}
    (enough : pieces.length = capabilities.length) :
    namesFor named (pieces.zip capabilities) = capabilities.map named := by
  have second := List.map_snd_zip (Nat.le_of_eq enough.symm)
  exact (List.map_map.symm).trans (congrArg (List.map named) second)

/-- Pieces are bound in order, each to the name for its capability. -/
theorem injectAll_meets {f : Text × String → Discovery Text} {named : String → String}
    {pieces : List Text} {capabilities gained : List String}
    (enough : pieces.length = capabilities.length) (before : b.Gains gained b')
    (sub : gained ++ capabilities.map named ⊆ (ruleFor selection update).produces)
    (step : ∀ x gained b', b.Gains gained b' → gained ⊆ (ruleFor selection update).produces →
      named x.2 ∈ (ruleFor selection update).produces →
      Meets (f x) b' (fun _ b'' => b.Gains (gained ++ [named x.2]) b'')
        (Unrendered selection update b)) :
    Meets ((pieces.zip capabilities).mapM f) b'
      (fun _ b'' => b.Gains (gained ++ capabilities.map named) b'')
      (Unrendered selection update b) := by
  obtain ⟨subGained, subNamed⟩ := List.append_subset.1 sub
  -- what has been bound belongs to the pieces done, and is declared
  have invariant : ∀ done x, x ∈ pieces.zip capabilities → ∀ b',
      (namesFor named done ⊆ (ruleFor selection update).produces ∧
        b.Gains (gained ++ namesFor named done) b') →
      Meets (f x) b' (fun _ b'' =>
        namesFor named (done ++ [x]) ⊆ (ruleFor selection update).produces ∧
          b.Gains (gained ++ namesFor named (done ++ [x])) b'')
        (Unrendered selection update b) := by
    rintro done x member b' ⟨subDone, gain⟩
    have inside : named x.2 ∈ (ruleFor selection update).produces :=
      subNamed (List.mem_map_of_mem (List.of_mem_zip member).2)
    refine (step x _ b' gain (List.append_subset.2 ⟨subGained, subDone⟩) inside).mono
      (fun _ b'' gain' => ⟨?_, ?_⟩) fun _ _ => id
    · rw [namesFor_append]
      exact List.append_subset.2 ⟨subDone, List.cons_subset.2 ⟨inside, List.nil_subset _⟩⟩
    · rw [namesFor_append, ← List.append_assoc]
      exact gain'
  have start : b.Gains (gained ++ namesFor named []) b' := by
    rwa [show namesFor named [] = [] from rfl, List.append_nil]
  refine (Meets.mapM [] ⟨List.nil_subset _, start⟩ invariant).mono ?_ fun _ _ => id
  rintro _ b'' ⟨-, gain⟩
  rwa [List.nil_append, namesFor_zip enough] at gain

/-! ## The rule -/

/-- The names that the rule binds, in the order in which it binds them. -/
def bound (selection update : List String) : List String :=
  Identifier.resetRoutine :: update.map Identifier.update ++ selection.map Identifier.selection

/-- The names that the rule binds are those that it declares, in another order. -/
theorem mem_bound_iff (name : String) :
    name ∈ bound selection update ↔ name ∈ (ruleFor selection update).produces := by
  simp only [bound, ruleFor, List.cons_append, List.mem_cons, List.mem_append]
  rw [or_comm (a := name ∈ update.map Identifier.update)]

theorem bound_subset_produces (selection update : List String) :
    bound selection update ⊆ (ruleFor selection update).produces :=
  fun name => (mem_bound_iff name).1

/-- What may go wrong with the rule. -/
def Failed (selection update : List String) (b : Bindings) (e : PatchError) : Prop :=
  (ruleFor selection update).NotFound e ∨ (ruleFor selection update).Malformed e ∨
    (ruleFor selection update).Misshapen e ∨ (ruleFor selection update).Unbound b e

/-- The routines that update the panels are bound and wrapped. -/
theorem injectUpdates_meets (selection : List String) {routines : List Text}
    (six : routines.length = update.length)
    (before : b.Gains [Identifier.resetRoutine] b') :
    Meets ((routines.zip update).mapM fun (routine, capability) => injectUpdate routine capability)
      b' (fun _ b'' => b.Gains (Identifier.resetRoutine :: update.map Identifier.update) b'')
      (Unrendered selection update b) := by
  refine injectAll_meets six before ?_ ?_
  · exact List.Subset.trans (List.subset_append_left _ _) (bound_subset_produces selection update)
  · rintro ⟨routine, capability⟩ gained b'' gain sub declared
    exact inject_meets HookCode.updateWrapper "routine" gain sub declared
      (by simp [ruleFor]) (by decide)

/-- The slots that hold what is selected are bound, and code is rendered that gives access to
them. -/
theorem injectSelections_meets {slots : List Text} (three : slots.length = selection.length)
    (before : b.Gains (Identifier.resetRoutine :: update.map Identifier.update) b') :
    Meets ((slots.zip selection).mapM fun (slot, capability) => injectSelection slot capability)
      b' (fun _ b'' => b.Gains (bound selection update) b'') (Unrendered selection update b) := by
  refine injectAll_meets three before (bound_subset_produces selection update) ?_
  rintro ⟨slot, capability⟩ gained b'' gain sub declared
  exact inject_meets HookCode.selectionAccessors "slot" gain sub declared
    (by simp [ruleFor]) (by decide)

/-- The rule binds the reset routine and its pieces, and loses nothing of the text. -/
theorem apply_meets (three : selection.length = ResetShape.slotCount)
    (six : update.length = ResetShape.updateCount) (text : Text) (b : Bindings) :
    Meets (apply selection update text) b
      (fun o b' => b.Gains (bound selection update) b' ∧ text.Sublist o.text)
      (fun e b' => b.Extends (ruleFor selection update).produces b' ∧
        Failed selection update b e) := by
  have unrendered : ∀ e b', Unrendered selection update b e b' →
      b.Extends (ruleFor selection update).produces b' ∧ Failed selection update b e :=
    fun e b' ⟨changed, unbound⟩ => ⟨changed, .inr (.inr (.inr unbound))⟩
  refine .get (.lift_ok (compile_routine name b) (.lift (fun found search => ?_) ?_))
  · obtain ⟨isMatch, before, pass⟩ := Locator.first_sound search
    obtain ⟨part, inside⟩ := isMatch.passes
    refine .lift (fun routine named => .lift (fun shape apart => .bind ?_) ?_) ?_
    · obtain ⟨slots, updates⟩ := ResetShape.length_of_ofFragment apart
      have first : b.Gains [Identifier.resetRoutine] (b.bind Identifier.resetRoutine routine) :=
        Bindings.Gains.single b Identifier.resetRoutine routine
      have wrapped := injectUpdates_meets selection (updates.trans six.symm) first
      refine (wrapped.mono (fun _ _ => id) unrendered).andThen fun wrappers b' gained => ?_
      have accessed := injectSelections_meets (slots.trans three.symm) gained
      refine (accessed.mono (fun _ _ => id) unrendered).andThen fun accessors b'' all => ?_
      refine .pure ⟨all, Extent.sublist_replace pass inside ?_⟩
      rw [← inside.extent_text, List.append_assoc, List.append_assoc]
      exact List.sublist_append_left _ _
    · intro e failed
      refine ⟨.refl _ b, ?_⟩
      rcases ResetShape.ofFragment_error failed with malformed | ⟨body, -, -, misshapen⟩
      · exact .inr (.inl malformed)
      · exact .inr (.inr (.inl ⟨_, _, _, misshapen⟩))
    · exact fun e failed => ⟨.refl _ b, .inr (.inl (routineName_error failed))⟩
  · exact fun e failed => ⟨.refl _ b, .inl (Rule.notFound_of_first failed rfl)⟩

end ResetState

end HookGraft

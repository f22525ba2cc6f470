import HookGraft.Proofs.Regex.Completeness
import HookGraft.Proofs.Rule.ResetRoutine

/-!
# How the reset state rule pairs pieces and capabilities

Routines and slots are paired with their capabilities in order, in the code and in the bindings. So
the name for a capability is bound to the piece that the code for this capability is about.

## Main definitions

* `ResetState.Pairs`: code, bindings and capabilities agree

## Main results

* `ResetState.pairs_in_order`: they do if the rule succeeds
-/

namespace HookGraft.ResetState

open Discovery Regex

variable {selection update : List String} {resetRule : Rule} {root text piece : Text}
  {capability : String} {b b' : Bindings} {o : RuleOutcome}

/-- What is bound to the name of a capability, if no capability comes twice. -/
theorem get?_of_zip {named : String → String} {pieces : List Text} {capabilities : List String}
    (injective : ∀ {c d}, named c = named d → c = d) (distinct : capabilities.Nodup)
    (enough : pieces.length = capabilities.length) {i : Nat}
    (isPiece : pieces[i]? = some piece) (isCapability : capabilities[i]? = some capability) :
    (b.bindAll ((pieces.zip capabilities).map fun x => (named x.2, x.1))).get? (named capability) =
      some piece := by
  have names : ((pieces.zip capabilities).map fun x => (named x.2, x.1)).map Prod.fst =
      capabilities.map named := by
    rw [List.map_map]
    exact namesFor_zip enough
  refine Bindings.get?_bindAll_of_mem ?_ ?_
  · rw [names]
    exact List.pairwise_map.2 (distinct.imp fun apart same => apart (injective same))
  · have pair : (piece, capability) ∈ pieces.zip capabilities :=
      List.mem_of_getElem? (List.getElem?_zip_eq_some.2 ⟨isPiece, isCapability⟩)
    exact List.mem_map_of_mem (f := fun x => (named x.2, x.1)) pair

/-- A block stands behind the first fragment. The code for a piece, the capability at the same place
and what is bound to the name of this capability agree. -/
structure Pairs (selection update : List String) (root text : Text) (b b' : Bindings)
    (o : RuleOutcome) (m : Match) (shape : ResetShape) : Prop where
  /-- The fragment is the first match of the signature. -/
  located : locate b text = .ok m
  isMatch : (inOrder routineParts).Matches m
  leftmost : (inOrder routineParts).NoneBefore (Cursor.start text) m.whole.start
  /-- The statements of its body clear the slots and call the routines. -/
  apart : ∃ body calls, IsBody m.whole.text body ∧
    ResetShape.IsCanonical (ResetShape.ownStatements body) shape calls
  three : shape.slots.length = selection.length
  six : shape.updates.length = update.length
  /-- A single block is put behind the fragment. -/
  single : o.sites = 1
  spliced : ∃ before after, (Cursor.start text).Passes before m.whole.start ∧
    text = before ++ m.whole.text ++ after ∧
    o.text = before ++ m.whole.text ++ block root shape selection update ++ after
  /-- The pieces are bound as they are paired in the block. -/
  updates : update.Nodup → ∀ (i : Nat) (routine : Text) (capability : String),
    shape.updates[i]? = some routine → update[i]? = some capability →
      b'.get? (Identifier.update capability) = some routine
  selections : selection.Nodup → ∀ (i : Nat) (slot : Text) (capability : String),
    shape.slots[i]? = some slot → selection[i]? = some capability →
      b'.get? (Identifier.selection capability) = some slot

/-- If the rule succeeds, the block for the pieces of the first fragment is put behind it. -/
theorem pairs_in_order (made : rule? selection update = .ok resetRule)
    (bound : b.get? Bindings.namespaceName = some root)
    (done : (resetRule.apply text).on b = (.ok o, b')) :
    ∃ m shape, Pairs selection update root text b b' o m shape := by
  obtain ⟨m, routine, shape, root', outcome⟩ := exists_of_apply made done
  obtain rfl := Option.some.inj (bound.symm.trans outcome.namespaced)
  obtain ⟨three, six, -⟩ := rule?_eq_ok made
  obtain ⟨slots, updates⟩ := ResetShape.length_of_ofFragment outcome.apart
  obtain ⟨locator, compiled, search⟩ := Except.bind_eq_ok.1 outcome.located
  rw [compile_routine] at compiled
  obtain rfl := Except.ok.inj compiled
  obtain ⟨isMatch, before, pass⟩ := Locator.first_sound search
  obtain ⟨part, inside⟩ := isMatch.passes
  obtain ⟨body, isBody, calls, canonical⟩ := ResetShape.ofFragment_eq_ok_iff.1 outcome.apart
  have before_eq : m.whole.start.before.reverse = before := by
    simpa [Cursor.start] using congrArg List.reverse pass.before
  refine ⟨m, shape, outcome.located, isMatch, noneBefore_of_first? (Locator.first?_of_first search),
    ⟨body, calls, isBody, canonical⟩, slots.trans three.symm, updates.trans six.symm,
    outcome.single, ⟨before, m.whole.stop.after, pass, ?_, ?_⟩, ?_, ?_⟩
  · rw [Extent.text_eq pass inside, inside.extent_text, before_eq]
  · rw [outcome.replaced, Extent.replace, before_eq, List.append_assoc, List.append_assoc]
    simp only [List.append_assoc]
  · intro distinct i routine capability isRoutine isCapability
    have apart : Identifier.update capability ∉
        ((shape.slots.zip selection).map fun x => (Identifier.selection x.2, x.1)).map Prod.fst := by
      simp only [List.map_map, List.mem_map, not_exists, not_and]
      exact fun x _ same => Identifier.update_ne_selection capability x.2 same.symm
    rw [outcome.bound, Bindings.get?_bindAll_of_not_mem apart]
    exact get?_of_zip Identifier.update_injective distinct (updates.trans six.symm) isRoutine
      isCapability
  · intro distinct i slot capability isSlot isCapability
    rw [outcome.bound]
    exact get?_of_zip Identifier.selection_injective distinct (slots.trans three.symm) isSlot
      isCapability

/-- The sample is taken apart, and the block for it is put behind it. -/
theorem pairs_in_order_sample : ∃ o b' m shape,
    rule? sampleSelection sampleUpdate = .ok (ruleFor sampleSelection sampleUpdate) ∧
      (Bindings.seeded ['w']).get? Bindings.namespaceName = some ['w'] ∧
      ((ruleFor sampleSelection sampleUpdate).apply sampleRoutine).on (.seeded ['w']) =
        (.ok o, b') ∧
      Pairs sampleSelection sampleUpdate ['w'] sampleRoutine (.seeded ['w']) b' o m shape := by
  obtain ⟨o, b', -, done, -⟩ := outcome?_eq_some (outcome?_sample (.inl rfl))
  have made := rule?_of_length (show sampleSelection.length = ResetShape.slotCount from rfl)
    (show sampleUpdate.length = ResetShape.updateCount from rfl)
  have bound : (Bindings.seeded ['w']).get? Bindings.namespaceName = some ['w'] := rfl
  obtain ⟨m, shape, pairs⟩ := pairs_in_order made bound done
  exact ⟨o, b', m, shape, made, bound, done, pairs⟩

end HookGraft.ResetState

import HookGraft.Proofs.Graft
import HookGraft.Proofs.Rule.ResetState

/-!
# The code behind the reset routine

The code that the reset state rule puts behind the fragment is written out here. It is a block with a
wrapper for each routine and a pair of accessors for each slot.

## Main definitions

* `ResetState.wrapper`, `ResetState.accessors`: the code for one routine and for one slot
* `ResetState.block`: the code for all of them
* `ResetState.Outcome`: what the steps of the rule yield

## Main results

* `ResetState.exists_of_apply`: a run of the rule that succeeds has an outcome
-/

namespace HookGraft.ResetState

open Discovery Regex

variable {selection update : List String} {resetRule : Rule} {root text code piece : Text}
  {capability : String} {b b' : Bindings} {o : RuleOutcome}

/-! ## The code -/

/-- The code for a routine. The routine is kept under another name, and a wrapper that calls the host
takes its place. -/
def wrapper (root routine : Text) (capability : String) : Text :=
  [ "let ".toList, routine, "OLD=".toList, routine, ";".toList,
    routine, "=function()\x7b".toList, routine, "OLD(...arguments);".toList,
    "if(".toList, root, ".afterUpdate".toList, capability.toList, ")".toList,
    root, ".afterUpdate".toList, capability.toList, "(...arguments);\x7d;".toList,
    root, ".update".toList, capability.toList, "=".toList, routine, ";".toList].flatten

/-- The code for a slot, which reads and writes it. -/
def accessors (root slot : Text) (capability : String) : Text :=
  [ root, ".getCurrent".toList, capability.toList,
    "=function()\x7breturn ".toList, slot, ";\x7d;".toList,
    root, ".setCurrent".toList, capability.toList,
    "=function(v)\x7breturn ".toList, slot, "=v;\x7d;".toList].flatten

/-- The code for the routines and the slots that a fragment comes apart into. -/
def block (root : Text) (shape : ResetShape) (selection update : List String) : Text :=
  ";\x7b".toList ++ (List.zipWith (wrapper root) shape.updates update).flatten ++
    (List.zipWith (accessors root) shape.slots selection).flatten ++ "\x7d;".toList

/-- A piece and its capability are in place when the code for them is rendered. -/
theorem textOf_locals (name : String) (piece : Text) (capability : String)
    (bound : b.get? Bindings.namespaceName = some root) (other : Bindings.namespaceName ≠ name)
    (apart : name ≠ "capability") :
    let rendered := (b.bind name piece).bind "capability" capability.toList
    rendered.textOf "ns" = root ∧ rendered.textOf name = piece ∧
      rendered.textOf "capability" = capability.toList :=
  ⟨Bindings.textOf_eq
      (Bindings.bound_bind "capability" _ (Bindings.bound_bind name piece bound other) (by decide)),
    Bindings.textOf_eq (Bindings.get?_bind_bind apart),
    Bindings.textOf_eq Bindings.get?_bind_self⟩

/-- The code for a routine, as a template that is filled. -/
def wrapperCode (b : Bindings) (routine : Text) (capability : String) : Code :=
  .filled b HookCode.updateWrapper [("routine", routine), ("capability", capability.toList)]

/-- The code for a slot, as a template that is filled. -/
def accessorsCode (b : Bindings) (slot : Text) (capability : String) : Code :=
  .filled b HookCode.selectionAccessors [("slot", slot), ("capability", capability.toList)]

theorem text_wrapperCode (bound : b.get? Bindings.namespaceName = some root) :
    (wrapperCode b piece capability).text = wrapper root piece capability := by
  obtain ⟨isRoot, isPiece, isCapability⟩ :=
    textOf_locals "routine" piece capability bound (by decide) (by decide)
  rw [wrapperCode, Code.text, Code.filled, Template.fill, HookCode.updateWrapper]
  simp only [Bindings.bindAll_cons, Bindings.bindAll_nil, List.flatMap_cons, List.flatMap_nil,
    Segment.fill, isRoot, isPiece, isCapability]
  rfl

theorem text_accessorsCode (bound : b.get? Bindings.namespaceName = some root) :
    (accessorsCode b piece capability).text = accessors root piece capability := by
  obtain ⟨isRoot, isPiece, isCapability⟩ :=
    textOf_locals "slot" piece capability bound (by decide) (by decide)
  rw [accessorsCode, Code.text, Code.filled, Template.fill, HookCode.selectionAccessors]
  simp only [Bindings.bindAll_cons, Bindings.bindAll_nil, List.flatMap_cons, List.flatMap_nil,
    Segment.fill, isRoot, isPiece, isCapability]
  rfl

theorem wrapUpdate_eq_ok (bound : b.get? Bindings.namespaceName = some root)
    (rendered : HookCode.wrapUpdate b piece capability = .ok code) :
    wrapper root piece capability = code :=
  (text_wrapperCode bound).symm.trans (Code.text_filled rendered)

theorem accessSelection_eq_ok (bound : b.get? Bindings.namespaceName = some root)
    (rendered : HookCode.accessSelection b piece capability = .ok code) :
    accessors root piece capability = code :=
  (text_accessorsCode bound).symm.trans (Code.text_filled rendered)

/-! ## The steps of the rule -/

/-- The fragment that the rule locates. -/
def locate (b : Bindings) (text : Text) : Except PatchError Match := do
  (← routine.compile name b).first text

/-- What the steps of the rule yield, if it succeeds. -/
structure Outcome (selection update : List String) (text : Text) (b b' : Bindings)
    (o : RuleOutcome) (m : Match) (routine : Text) (shape : ResetShape) (root : Text) : Prop where
  located : locate b text = .ok m
  named : routineName name m.whole.text = .ok routine
  apart : ResetShape.ofFragment name m.whole.text = .ok shape
  namespaced : b.get? Bindings.namespaceName = some root
  replaced : o.text = m.whole.replace (m.whole.text ++ block root shape selection update)
  single : o.sites = 1
  bound : b' = ((b.bind Identifier.resetRoutine routine).bindAll
    ((shape.updates.zip update).map fun x => (Identifier.update x.2, x.1))).bindAll
    ((shape.slots.zip selection).map fun x => (Identifier.selection x.2, x.1))

theorem injectUpdate_eq_ok (bound : b.get? Bindings.namespaceName = some root)
    (done : (injectUpdate piece capability).on b = (.ok code, b')) :
    b' = b.bind (Identifier.update capability) piece ∧ wrapper root piece capability = code := by
  simp only [injectUpdate, on_get_andThen, on_bind_name_andThen, on_lift, Prod.mk.injEq] at done
  obtain ⟨rendered, rfl⟩ := done
  have kept := Bindings.bound_bind (Identifier.update capability) piece bound
    (update_ne (by decide) capability).symm
  exact ⟨rfl, wrapUpdate_eq_ok kept rendered⟩

theorem injectSelection_eq_ok (bound : b.get? Bindings.namespaceName = some root)
    (done : (injectSelection piece capability).on b = (.ok code, b')) :
    b' = b.bind (Identifier.selection capability) piece ∧
      accessors root piece capability = code := by
  simp only [injectSelection, on_get_andThen, on_bind_name_andThen, on_lift, Prod.mk.injEq] at done
  obtain ⟨rendered, rfl⟩ := done
  have kept := Bindings.bound_bind (Identifier.selection capability) piece bound
    (selection_ne (by decide) capability).symm
  exact ⟨rfl, accessSelection_eq_ok kept rendered⟩

/-- Pieces are bound in order, and their codes come in the same order. -/
theorem codes_of_mapM {f : Text × String → Discovery Text} {named : String → String}
    {makes : Text → String → Text} {xs : List (Text × String)} {codes : List Text}
    (bound : b.get? Bindings.namespaceName = some root)
    (other : ∀ capability, Bindings.namespaceName ≠ named capability)
    (step : ∀ x b code b', b.get? Bindings.namespaceName = some root →
      (f x).on b = (.ok code, b') → b' = b.bind (named x.2) x.1 ∧ makes x.1 x.2 = code)
    (done : (xs.mapM f).on b = (.ok codes, b')) :
    codes = xs.map (fun x => makes x.1 x.2) ∧
      b' = b.bindAll (xs.map fun x => (named x.2, x.1)) ∧
      b'.get? Bindings.namespaceName = some root := by
  induction xs generalizing b codes with
  | nil =>
    rw [List.mapM_nil, on_pure] at done
    obtain ⟨⟨⟩, rfl⟩ := Prod.mk.inj done
    exact ⟨rfl, rfl, bound⟩
  | cons x xs ih =>
    simp only [List.mapM_cons, on_andThen_eq_ok, on_pure, Prod.mk.injEq, Except.ok.injEq] at done
    obtain ⟨code, b₁, first, codes, b₂, others, rfl, rfl⟩ := done
    obtain ⟨rfl, rfl⟩ := step x b code b₁ bound first
    obtain ⟨rfl, rfl, kept⟩ := ih (Bindings.bound_bind (named x.2) x.1 bound (other x.2)) others
    exact ⟨rfl, rfl, kept⟩

/-- The namespace is bound, or the code for the first routine could not be rendered. -/
theorem exists_namespace {x : Text × String} {xs : List (Text × String)} {codes : List Text}
    (done : ((x :: xs).mapM fun (routine, capability) => injectUpdate routine capability).on b =
      (.ok codes, b')) : ∃ root, b.get? Bindings.namespaceName = some root := by
  simp only [List.mapM_cons, on_andThen_eq_ok] at done
  obtain ⟨code, b₁, first, -⟩ := done
  simp only [injectUpdate, on_get_andThen, on_bind_name_andThen, on_lift, Prod.mk.injEq] at first
  have parameter : Bindings.namespaceName ∈ HookCode.updateWrapper.parameters := by decide
  obtain ⟨root, bound⟩ := Template.bound_of_render first.1 parameter
  rw [Bindings.get?_bind_of_ne (by decide), Bindings.get?_bind_of_ne (by decide),
    Bindings.get?_bind_of_ne (update_ne (by decide) x.2).symm] at bound
  exact ⟨root, bound⟩

/-- What the steps of the rule yield, if it succeeds. -/
theorem exists_of_apply (made : rule? selection update = .ok resetRule)
    (done : (resetRule.apply text).on b = (.ok o, b')) :
    ∃ m routine shape root, Outcome selection update text b b' o m routine shape root := by
  obtain ⟨-, six, rfl⟩ := rule?_eq_ok made
  simp only [ruleFor, apply, on_get_andThen, on_lift_andThen_eq_ok, on_bind_name_andThen] at done
  obtain ⟨locator, compiled, m, search, routine, named, shape, apart, done⟩ := done
  simp only [on_andThen_eq_ok, on_pure, Prod.mk.injEq, Except.ok.injEq] at done
  obtain ⟨wrappers, b₁, wrapped, accessors, b₂, accessed, rfl, rfl⟩ := done
  have renamed : (b.bind Identifier.resetRoutine routine).get? Bindings.namespaceName =
      b.get? Bindings.namespaceName := Bindings.get?_bind_of_ne (by decide)
  obtain ⟨root, namespaced⟩ : ∃ root, b.get? Bindings.namespaceName = some root := by
    obtain ⟨x, xs, cons⟩ : ∃ x xs, shape.updates.zip update = x :: xs := by
      refine List.exists_cons_of_ne_nil (List.ne_nil_of_length_pos ?_)
      rw [List.length_zip, six, (ResetShape.length_of_ofFragment apart).2]
      decide
    rw [cons] at wrapped
    exact renamed ▸ exists_namespace wrapped
  obtain ⟨rfl, rfl, kept⟩ := codes_of_mapM (renamed.trans namespaced)
    (fun capability => (update_ne (by decide) capability).symm)
    (fun x b code b' => injectUpdate_eq_ok) wrapped
  obtain ⟨rfl, rfl, -⟩ := codes_of_mapM kept
    (fun capability => (selection_ne (by decide) capability).symm)
    (fun x b code b' => injectSelection_eq_ok) accessed
  refine ⟨m, routine, shape, root, ?_, named, apart, namespaced, ?_, rfl, rfl⟩
  · rw [locate, compiled]
    exact search
  · have panels : (shape.updates.zip update).map (fun x => wrapper root x.1 x.2) =
        List.zipWith (wrapper root) shape.updates update := List.map_zip_eq_zipWith
    have selections : (shape.slots.zip selection).map (fun x => accessors root x.1 x.2) =
        List.zipWith (accessors root) shape.slots selection := List.map_zip_eq_zipWith
    simp [block, panels, selections]

end HookGraft.ResetState

import HookGraft.Proofs.Rule.ResetBlock
import HookGraft.Proofs.Rule.Serving
import HookGraft.Proofs.Rule.Standard

/-!
# What the rules insert

A standard rule that succeeds puts codes into the text. It is said here which codes these are: they
are filled from the bindings that the rule leaves, and two fixed texts stand around the codes for the
panels and the selection. The codes provide the slots that the rule is for.

## Main definitions

* `MapObject.Puts`, `MapEncoder.Puts`, and so on: the codes that each rule puts in

## Main results

* `MapObject.apply_grafts`, `MapEncoder.apply_grafts`, and so on: each rule puts in these codes
* `MapObject.Puts.serves`, `MapEncoder.Puts.serves`, and so on: the slots that they provide
* `Rule.IsStandard.keeps_namespace`: what the namespace is bound to does not change
-/

namespace HookGraft

open Discovery HookNamespace

variable {root text : Text} {b b' : Bindings} {o : RuleOutcome} {codes : List Code}

/-! ## What stays bound -/

/-- No standard rule declares the name of the namespace. -/
theorem Rule.IsStandard.namespace_not_produced {rule : Rule} (standard : rule.IsStandard) :
    Bindings.namespaceName ∉ rule.produces := by
  cases standard with
  | mapObject key =>
    show Bindings.namespaceName ∉ [Identifier.mapObject, Identifier.mapContainer]
    decide
  | mapEncoder => decide
  | resetState made =>
    obtain ⟨-, -, rfl⟩ := ResetState.rule?_eq_ok made
    exact ResetState.not_mem_produces (by decide) (by decide) (by decide) _ _
  | undoHistory => decide
  | chatListener => exact List.not_mem_nil
  | colourPicker inputId =>
    show Bindings.namespaceName ∉ [Identifier.colourPickerKey]
    decide

/-- A standard rule leaves the namespace bound to what it is bound to. -/
theorem Rule.IsStandard.keeps_namespace {rule : Rule} (standard : rule.IsStandard)
    (done : (rule.apply text).on b = (.ok o, b')) :
    b'.get? Bindings.namespaceName = b.get? Bindings.namespaceName := by
  obtain ⟨gained, same, gains⟩ := (standard.meets text b).success o b' done
  have changed := gains.frame rule.produces fun name member => (same name).1 member
  exact changed.kept _ standard.namespace_not_produced

/-! ## One code -/

/-- A filled template in the place of an extent. -/
theorem Extent.grafted_render {t : Template} {locals : List (String × Text)} {e : Extent}
    {skipped part new : Text} (before : (Cursor.start text).Passes skipped e.start)
    (inside : e.start.Passes part e.stop) (rendered : t.render (b.bindAll locals) .raw = .ok new) :
    Grafted [.filled b t locals] text (e.replace new) := by
  have grafted := Extent.grafted_replace before inside [.filled b t locals]
  rwa [List.map_singleton, List.flatten_singleton, Code.text_filled rendered] at grafted

/-- The registration, in front of the routine. -/
def UndoHistory.Puts (b : Bindings) (codes : List Code) : Prop :=
  ∃ found, codes = [.filled b registration [(Identifier.fragment, found)]]

/-- The registration is put in front of the routine. -/
theorem UndoHistory.apply_grafts (done : (apply text).on b = (.ok o, b')) :
    ∃ codes, Puts b' codes ∧ Grafted codes text o.text := by
  simp only [apply, on_get_andThen, on_lift_andThen_eq_ok, on_bind_name_andThen, on_pure,
    Prod.mk.injEq, Except.ok.injEq] at done
  obtain ⟨locator, -, found, search, routine, -, new, rendered, rfl, rfl⟩ := done
  obtain ⟨isMatch, before, pass⟩ := Locator.first_sound search
  obtain ⟨part, inside⟩ := isMatch.passes
  exact ⟨_, ⟨found.whole.text, rfl⟩, Extent.grafted_render pass inside rendered⟩

theorem UndoHistory.Puts.serves (puts : Puts b codes)
    (bound : b.get? Bindings.namespaceName = some root) :
    Serves root (editorSlots.take 1) codes := by
  obtain ⟨found, rfl⟩ := puts
  exact serves_registration (Code.value_filled registration bound
    (show Bindings.namespaceName ∉ [Identifier.fragment] by decide))

/-- The code around the body of the picker. -/
def ColourPicker.Puts (inputId : String) (b : Bindings) (codes : List Code) : Prop :=
  ∃ found, codes =
    [.filled b body [(Identifier.fragment, found), (colourInput, inputId.toList)]]

/-- The code stands around the body of the picker. -/
theorem ColourPicker.apply_grafts {inputId : String}
    (done : (apply inputId text).on b = (.ok o, b')) :
    ∃ codes, Puts inputId b' codes ∧ Grafted codes text o.text := by
  simp only [apply, on_get_andThen, on_lift_andThen_eq_ok, on_bind_name_andThen, on_pure,
    Prod.mk.injEq, Except.ok.injEq] at done
  obtain ⟨locator, compiled, found, search, key, -, inner, -, span, inGroup, new, rendered, rfl,
    rfl⟩ := done
  rw [compile_picker] at compiled
  obtain rfl := Except.ok.inj compiled
  obtain ⟨isMatch, before, pass⟩ := Locator.unique_sound search
  obtain ⟨mid, marks, last, first, rest⟩ := isMatch.group_last rfl
  obtain ⟨head, ahead⟩ := first.passes
  obtain ⟨body, inside⟩ := rest.passes
  rw [Match.captureSpan_eq_ok name last] at inGroup
  obtain rfl := Except.ok.inj inGroup
  exact ⟨_, ⟨inner, rfl⟩, Extent.grafted_render (pass.trans ahead) inside rendered⟩

theorem ColourPicker.Puts.serves {inputId : String} (puts : Puts inputId b codes)
    (bound : b.get? Bindings.namespaceName = some root) :
    Serves root (editorSlots.drop 1) codes := by
  obtain ⟨found, rfl⟩ := puts
  exact serves_body (Code.value_filled body bound
    (show Bindings.namespaceName ∉ [Identifier.fragment, colourInput] by decide))

/-- Nothing. -/
def ChatListener.Puts (_ : Bindings) (codes : List Code) : Prop := codes = []

/-- Nothing is inserted. -/
theorem ChatListener.apply_grafts (done : (apply text).on b = (.ok o, b')) :
    ∃ codes, Puts b' codes ∧ Grafted codes text o.text := by
  obtain ⟨before, removed, after, rfl, -, out⟩ := ((apply_meets text b).success o b' done).2
  refine ⟨[], rfl, ?_⟩
  rw [out, List.append_assoc]
  exact ((Grafted.refl after).drop removed).keep before

theorem ChatListener.Puts.serves (puts : Puts b codes) (root : Text) : Serves root [] codes := by
  obtain rfl := puts
  exact .nil root

/-! ## Several codes -/

/-- One registration or more, each behind a definition of the constructor. -/
def MapEncoder.Puts (b : Bindings) (codes : List Code) : Prop :=
  codes ≠ [] ∧ ∀ code ∈ codes, code = .filled b registration []

/-- The registration is put behind every definition of the constructor. -/
theorem MapEncoder.apply_grafts (done : (apply text).on b = (.ok o, b')) :
    ∃ codes, Puts b' codes ∧ Grafted codes text o.text := by
  simp only [apply, on_get_andThen, on_lift_andThen_eq_ok, on_bind_name_andThen, on_check_eq_ok,
    on_pure, Prod.mk.injEq, Except.ok.injEq] at done
  obtain ⟨finder, -, found, -, encoder, -, locator, -, new, rendered, ⟨out, sites⟩, replaced, some,
    rfl, rfl⟩ := done
  obtain ⟨codes, grafted, rfl, each⟩ := Locator.exists_grafted
    (· = .filled (b.bind Identifier.mapEncoder encoder) registration [])
    (fun m new' same => ⟨_, (Code.text_filled rendered).trans (Except.ok.inj same), rfl⟩) replaced
  exact ⟨codes, ⟨List.ne_nil_of_length_pos (Nat.pos_of_ne_zero some), each⟩, grafted⟩

theorem MapEncoder.Puts.serves (puts : Puts b codes)
    (bound : b.get? Bindings.namespaceName = some root) : Serves root (mapSlots.drop 2) codes := by
  refine .of_forall puts.1 fun code member => ?_
  rw [puts.2 code member]
  exact serves_registration (Code.value_filled registration bound List.not_mem_nil)

/-- One copy or more, each behind an assignment to the slot. -/
def MapObject.Puts (b : Bindings) (codes : List Code) : Prop :=
  codes ≠ [] ∧ ∀ code ∈ codes, ∃ found, code = .filled b copied [(Identifier.fragment, found)]

/-- Every assignment is followed by the copy into the namespace and the call of the host. -/
theorem MapObject.apply_grafts {key : String} (done : (apply key text).on b = (.ok o, b')) :
    ∃ codes, Puts b' codes ∧ Grafted codes text o.text := by
  simp only [apply, on_get_andThen, on_lift_andThen_eq_ok, on_bind_name_andThen, on_check_eq_ok,
    on_pure, Prod.mk.injEq, Except.ok.injEq] at done
  obtain ⟨finder, -, found, -, slot, -, locator, -, ⟨out, sites⟩, replaced, some, rfl, rfl⟩ := done
  obtain ⟨codes, grafted, rfl, each⟩ := Locator.exists_grafted
    (fun code => ∃ found, code = .filled ((b.bind Identifier.mapObject slot.object).bind
      Identifier.mapContainer slot.container) copied [(Identifier.fragment, found)])
    (fun m new rendered => by
      obtain ⟨fragment, -, rendered⟩ := Except.bind_eq_ok.1 rendered
      exact ⟨_, Code.text_filled rendered, fragment, rfl⟩) replaced
  exact ⟨codes, ⟨List.ne_nil_of_length_pos (Nat.pos_of_ne_zero some), each⟩, grafted⟩

theorem MapObject.Puts.serves (puts : Puts b codes)
    (bound : b.get? Bindings.namespaceName = some root) : Serves root (mapSlots.take 2) codes := by
  refine .of_forall puts.1 fun code member => ?_
  obtain ⟨found, rfl⟩ := puts.2 code member
  exact serves_copied (Code.value_filled copied bound
    (show Bindings.namespaceName ∉ [Identifier.fragment] by decide))

/-! ## Codes for capabilities -/

/-- What each capability has a code for is provided by all codes together. -/
theorem Serves.flatMap {slotsFor : String → List HookSlot} {codeFor : Text → String → Code}
    {xs : List (Text × String)}
    (each : ∀ x ∈ xs, Serves root (slotsFor x.2) [codeFor x.1 x.2]) :
    Serves root ((xs.map Prod.snd).flatMap slotsFor) (xs.map fun x => codeFor x.1 x.2) := by
  induction xs with
  | nil => exact .nil root
  | cons x xs ih =>
    obtain ⟨first, others⟩ := List.forall_mem_cons.1 each
    exact first.append (ih others)

namespace ResetState

variable {selection update : List String}

/-- What opens the block of codes. -/
def opening : Template := ⟨[";\x7b"]⟩

/-- What closes the block of codes. -/
def closing : Template := ⟨["\x7d;"]⟩

/-- A block with a wrapper for each panel and a pair of accessors for each selection. The wrapped
routines and the slots are taken out of the text. -/
def Puts (selection update : List String) (b : Bindings) (codes : List Code) : Prop :=
  ∃ routines slots : List Text, routines.length = update.length ∧ slots.length = selection.length ∧
    codes = .filled b opening [] ::
      ((routines.zip update).map (fun x => wrapperCode b x.1 x.2) ++
        (slots.zip selection).map (fun x => accessorsCode b x.1 x.2) ++ [.filled b closing []])

theorem text_fixed (piece : Text) : (Code.filled b ⟨[.literal piece]⟩ []).text = piece := by
  simp [Code.text, Code.filled, Template.fill, Segment.fill]

/-- A text that is put in as it is provides nothing. -/
theorem serves_fixed (piece : Text) (bound : b.get? Bindings.namespaceName = some root) :
    Serves root [] [.filled b ⟨[.literal piece]⟩ []] := by
  refine .single (Code.value_filled _ bound List.not_mem_nil)
    (show Template.places ⟨[.literal piece]⟩ = [] from ?_) nofun nofun
  simp [Template.places]

/-- The codes for the pieces that a fragment comes apart into make up the block. -/
theorem flatten_codes {shape : ResetShape} (bound : b.get? Bindings.namespaceName = some root) :
    ((Code.filled b opening [] ::
      ((shape.updates.zip update).map (fun x => wrapperCode b x.1 x.2) ++
        (shape.slots.zip selection).map (fun x => accessorsCode b x.1 x.2) ++
          [.filled b closing []])).map Code.text).flatten = block root shape selection update := by
  have wrappers : (shape.updates.zip update).map (fun x => (wrapperCode b x.1 x.2).text) =
      List.zipWith (wrapper root) shape.updates update := by
    simp only [text_wrapperCode bound]
    exact List.map_zip_eq_zipWith
  have pairs : (shape.slots.zip selection).map (fun x => (accessorsCode b x.1 x.2).text) =
      List.zipWith (accessors root) shape.slots selection := by
    simp only [text_accessorsCode bound]
    exact List.map_zip_eq_zipWith
  rw [block, ← wrappers, ← pairs]
  simp [opening, closing, text_fixed, Function.comp_def]

/-- Code for each routine and for each slot is put behind the reset routine. -/
theorem apply_grafts (three : selection.length = ResetShape.slotCount)
    (six : update.length = ResetShape.updateCount)
    (done : (apply selection update text).on b = (.ok o, b')) :
    ∃ codes, Puts selection update b' codes ∧ Grafted codes text o.text := by
  have made := rule?_of_length three six
  obtain ⟨m, routine, shape, root, outcome⟩ := exists_of_apply made done
  obtain ⟨slots, updates⟩ := ResetShape.length_of_ofFragment outcome.apart
  obtain ⟨locator, -, search⟩ := Except.bind_eq_ok.1 outcome.located
  obtain ⟨isMatch, before, pass⟩ := Locator.first_sound search
  obtain ⟨part, within⟩ := isMatch.passes
  have bound := ((Rule.IsStandard.resetState made).keeps_namespace done).trans outcome.namespaced
  refine ⟨_, ⟨shape.updates, shape.slots, updates.trans six.symm, slots.trans three.symm, rfl⟩, ?_⟩
  rw [outcome.replaced, ← flatten_codes bound, within.extent_text]
  exact Extent.grafted_behind pass within _

section Capability

variable {piece : Text} {capability : String}
  (inside : capability.toList.all Mention.isKeyChar = true)
  (bound : b.get? Bindings.namespaceName = some root)
include inside bound

theorem serves_wrapperCode : Serves root (updateSlots capability) [wrapperCode b piece capability] :=
  HookCode.serves_updateWrapper (Bindings.textOf_eq Bindings.get?_bind_self) inside
    (Code.value_filled HookCode.updateWrapper bound
      (show Bindings.namespaceName ∉ ["routine", "capability"] by decide))

theorem serves_accessorsCode :
    Serves root (selectionSlots capability) [accessorsCode b piece capability] :=
  HookCode.serves_selectionAccessors (Bindings.textOf_eq Bindings.get?_bind_self) inside
    (Code.value_filled HookCode.selectionAccessors bound
      (show Bindings.namespaceName ∉ ["slot", "capability"] by decide))

end Capability

theorem Puts.serves (puts : Puts selection update b codes)
    (inside : ∀ capability ∈ update ++ selection, capability.toList.all Mention.isKeyChar = true)
    (bound : b.get? Bindings.namespaceName = some root) :
    Serves root (update.flatMap updateSlots ++ selection.flatMap selectionSlots) codes := by
  obtain ⟨routines, slots, six, three, rfl⟩ := puts
  have panels : Serves root (((routines.zip update).map Prod.snd).flatMap updateSlots)
      ((routines.zip update).map fun x => wrapperCode b x.1 x.2) :=
    .flatMap fun x member =>
      serves_wrapperCode (inside x.2 (List.mem_append_left _ (List.of_mem_zip member).2)) bound
  have selections : Serves root (((slots.zip selection).map Prod.snd).flatMap selectionSlots)
      ((slots.zip selection).map fun x => accessorsCode b x.1 x.2) :=
    .flatMap fun x member =>
      serves_accessorsCode (inside x.2 (List.mem_append_right _ (List.of_mem_zip member).2)) bound
  rw [List.map_snd_zip six.ge] at panels
  rw [List.map_snd_zip three.ge] at selections
  have closed := (panels.append selections).append (serves_fixed "\x7d;".toList bound)
  rw [List.append_nil] at closed
  exact (serves_fixed ";\x7b".toList bound).append closed

end ResetState

end HookGraft

import HookGraft.Hook.Code
import HookGraft.Proofs.Code
import HookGraft.Rule.ColourPicker
import HookGraft.Rule.MapEncoder
import HookGraft.Rule.MapObject
import HookGraft.Rule.UndoHistory

/-!
# What the inserted code provides

Each template of inserted code provides one or two slots, which are listed by name. Where a template
is filled for a capability, the keys of the slots end in it.

## Main results

* `HookCode.serves_updateWrapper`, `HookCode.serves_selectionAccessors`: the slots for a panel, and
  those for a selection
* `MapObject.serves_copied`, `MapEncoder.serves_registration`: the slots for the map
* `UndoHistory.serves_registration`, `ColourPicker.serves_body`: the slots for the editor
-/

namespace HookGraft

open HookNamespace Mention

variable {value : String → Text} {root : Text} {capability : String}

/-! ## The map -/

/-- The map is copied, and the host is called under a guard. -/
theorem MapObject.serves_copied (namespaced : value Bindings.namespaceName = root) :
    Serves root (mapSlots.take 2) [⟨copied, value⟩] := by
  subst namespaced
  let code : Code := ⟨copied, value⟩
  have map : (code.around 1).key? = some "mapObject".toList ∧
      (code.around 1).rest = "=".toList ++ code.onwards 3 :=
    Code.keyed rfl (by decide) (by decide) (by decide)
  have test : (code.around 6).key? = some "afterNewMapObject".toList ∧
      (code.around 6).rest = [')'] ++ code.onwards 8 :=
    Code.keyed rfl (by decide) (by decide) (by decide)
  have call : (code.around 8).key? = some "afterNewMapObject".toList ∧
      (code.around 8).rest = "();".toList ++ code.onwards 10 :=
    Code.keyed rfl (by decide) (by decide) (by decide)
  obtain ⟨tested, called⟩ := Code.guarded rfl rfl rfl test call.1 (congrArg List.head? call.2)
  refine .single rfl (show copied.places = [1, 6, 8] by decide) ?_ ?_
  · refine List.forall_mem_cons.2 ⟨⟨_, .head _, map.1, nofun⟩, ?_⟩
    refine List.forall_mem_cons.2 ⟨⟨_, .tail _ (.head _), test.1, fun _ => tested⟩, ?_⟩
    exact List.forall_mem_singleton.2 ⟨_, .tail _ (.head _), call.1, fun _ => called⟩
  · refine List.forall_mem_cons.2 ⟨⟨1, by decide, map.1, fun _ => congrArg List.head? map.2⟩, ?_⟩
    exact List.forall_mem_singleton.2 ⟨6, by decide, test.1, fun other => absurd rfl other⟩

/-- A code with one place, at which a slot is assigned. -/
theorem Serves.assignment {code : Code} {slot : HookSlot} {i : Nat} {tail : Text}
    (namespaced : code.value Bindings.namespaceName = root) (all : code.template.places = [i])
    (kind : slot.kind ≠ .optionalCallback)
    (keyed : (code.around i).key? = some slot.key.toList ∧
      (code.around i).rest = "=".toList ++ tail) : Serves root [slot] [code] := by
  refine .single namespaced all ?_ ?_
  · exact List.forall_mem_singleton.2
      ⟨slot, .head _, keyed.1, fun optional => absurd optional kind⟩
  · exact List.forall_mem_singleton.2
      ⟨i, .head _, keyed.1, fun _ => congrArg List.head? keyed.2⟩

/-- The constructor is assigned. -/
theorem MapEncoder.serves_registration (namespaced : value Bindings.namespaceName = root) :
    Serves root (mapSlots.drop 2) [⟨registration, value⟩] := by
  let code : Code := ⟨registration, value⟩
  have encoder : (code.around 3).key? = some "mapEncoder".toList ∧
      (code.around 3).rest = "=".toList ++ code.onwards 5 :=
    Code.keyed rfl (by decide) (by decide) (by decide)
  exact .assignment namespaced (show registration.places = [3] by decide) nofun encoder

/-! ## The editor -/

/-- The routine that saves a snapshot is assigned. -/
theorem UndoHistory.serves_registration (namespaced : value Bindings.namespaceName = root) :
    Serves root (editorSlots.take 1) [⟨registration, value⟩] := by
  let code : Code := ⟨registration, value⟩
  have save : (code.around 0).key? = some "saveToUndoHistory".toList ∧
      (code.around 0).rest = "=".toList ++ code.onwards 2 :=
    Code.keyed rfl (by decide) (by decide) (by decide)
  exact .assignment namespaced (show registration.places = [0] by decide) nofun save

/-- The arguments are kept and used again, and the routine that opens the picker is assigned. -/
theorem ColourPicker.serves_body (namespaced : value Bindings.namespaceName = root) :
    Serves root (editorSlots.drop 1) [⟨body, value⟩] := by
  let code : Code := ⟨body, value⟩
  have keep : (code.around 0).key? = some "showColourPickerArguments".toList ∧
      (code.around 0).rest = "=[...arguments];\n".toList ++ code.onwards 2 :=
    Code.keyed rfl (by decide) (by decide) (by decide)
  have set : (code.around 10).key? = some "setColourPickerColour".toList ∧
      (code.around 10).rest = "=function(c)\x7bKscpa(c,...".toList ++ code.onwards 12 :=
    Code.keyed rfl (by decide) (by decide) (by decide)
  have read : (code.around 12).key? = some "showColourPickerArguments".toList ∧
      (code.around 12).rest = ".slice(1));\x7d;\n".toList ++ code.onwards 14 :=
    Code.keyed rfl (by decide) (by decide) (by decide)
  refine .single namespaced (show body.places = [0, 10, 12] by decide) ?_ ?_
  · refine List.forall_mem_cons.2 ⟨⟨_, .head _, keep.1, nofun⟩, ?_⟩
    refine List.forall_mem_cons.2 ⟨⟨_, .tail _ (.head _), set.1, nofun⟩, ?_⟩
    exact List.forall_mem_singleton.2 ⟨_, .head _, read.1, nofun⟩
  · refine List.forall_mem_cons.2 ⟨⟨0, by decide, keep.1, fun _ => congrArg List.head? keep.2⟩, ?_⟩
    exact List.forall_mem_singleton.2 ⟨10, by decide, set.1, fun _ => congrArg List.head? set.2⟩

/-! ## Panels and selections -/

section Capability

variable (filled : value "capability" = capability.toList)
  (inside : capability.toList.all isKeyChar = true)
include filled inside

/-- A key that ends in a capability. -/
theorem Code.keyed_capability {template : Template} {i : Nat} {ending : Text} (stem : String)
    (here : template.segments[i + 1]? = some (.literal ('.' :: stem.toList)))
    (parameter : template.segments[i + 2]? = some (.parameter "capability"))
    (last : template.segments[i + 3]? = some (.literal ending))
    (fixed : stem.toList.all isKeyChar = true) (outside : ending.head?.map isKeyChar = some false) :
    (around ⟨template, value⟩ i).key? = some (stem ++ capability).toList ∧
      (around ⟨template, value⟩ i).rest = ending ++ onwards ⟨template, value⟩ (i + 4) := by
  rw [String.toList_append, ← filled]
  refine Code.keyed_parameter stem.toList here parameter last ?_ outside
  show (stem.toList ++ value "capability").all isKeyChar = true
  rw [List.all_append, fixed, filled, inside]
  rfl

/-- The host is called under a guard, and the routine is assigned. -/
theorem HookCode.serves_updateWrapper (namespaced : value Bindings.namespaceName = root) :
    Serves root (updateSlots capability) [⟨updateWrapper, value⟩] := by
  let code : Code := ⟨updateWrapper, value⟩
  have test : (code.around 10).key? = some ("afterUpdate" ++ capability).toList ∧
      (code.around 10).rest = [')'] ++ code.onwards 14 :=
    Code.keyed_capability filled inside "afterUpdate" rfl rfl rfl (by decide) (by decide)
  have call : (code.around 14).key? = some ("afterUpdate" ++ capability).toList ∧
      (code.around 14).rest = "(...arguments);\x7d;".toList ++ code.onwards 18 :=
    Code.keyed_capability filled inside "afterUpdate" rfl rfl rfl (by decide) (by decide)
  have update : (code.around 18).key? = some ("update" ++ capability).toList ∧
      (code.around 18).rest = "=".toList ++ code.onwards 22 :=
    Code.keyed_capability filled inside "update" rfl rfl rfl (by decide) (by decide)
  obtain ⟨tested, called⟩ := Code.guarded rfl rfl rfl test call.1 (congrArg List.head? call.2)
  rw [show code.value Bindings.namespaceName = root from namespaced] at tested called
  refine .single namespaced (show updateWrapper.places = [10, 14, 18] by decide) ?_ ?_
  · refine List.forall_mem_cons.2 ⟨⟨_, .tail _ (.head _), test.1, fun _ => tested⟩, ?_⟩
    refine List.forall_mem_cons.2 ⟨⟨_, .tail _ (.head _), call.1, fun _ => called⟩, ?_⟩
    exact List.forall_mem_singleton.2 ⟨_, .head _, update.1, nofun⟩
  · refine List.forall_mem_cons.2
      ⟨⟨18, by decide, update.1, fun _ => congrArg List.head? update.2⟩, ?_⟩
    exact List.forall_mem_singleton.2 ⟨10, by decide, test.1, fun other => absurd rfl other⟩

/-- Both routines are assigned. -/
theorem HookCode.serves_selectionAccessors (namespaced : value Bindings.namespaceName = root) :
    Serves root (selectionSlots capability) [⟨selectionAccessors, value⟩] := by
  let code : Code := ⟨selectionAccessors, value⟩
  have get : (code.around 0).key? = some ("getCurrent" ++ capability).toList ∧
      (code.around 0).rest = "=function()\x7breturn ".toList ++ code.onwards 4 :=
    Code.keyed_capability filled inside "getCurrent" rfl rfl rfl (by decide) (by decide)
  have set : (code.around 6).key? = some ("setCurrent" ++ capability).toList ∧
      (code.around 6).rest = "=function(v)\x7breturn ".toList ++ code.onwards 10 :=
    Code.keyed_capability filled inside "setCurrent" rfl rfl rfl (by decide) (by decide)
  refine .single namespaced (show selectionAccessors.places = [0, 6] by decide) ?_ ?_
  · refine List.forall_mem_cons.2 ⟨⟨_, .head _, get.1, nofun⟩, ?_⟩
    exact List.forall_mem_singleton.2 ⟨_, .tail _ (.head _), set.1, nofun⟩
  · refine List.forall_mem_cons.2 ⟨⟨0, by decide, get.1, fun _ => congrArg List.head? get.2⟩, ?_⟩
    exact List.forall_mem_singleton.2 ⟨6, by decide, set.1, fun _ => congrArg List.head? set.2⟩

end Capability

end HookGraft

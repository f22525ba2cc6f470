import HookGraft.Hook.Namespace
import Mathlib.Data.List.Nodup

/-!
# Keys of slots

The key of a slot is fixed, or it is one of four stems with the name of a capability behind it. No
stem is the beginning of another stem or of a fixed key, so different capabilities lead to different
keys, whatever their names are.

## Main definitions

* `HookNamespace.stems`: what the keys for capabilities begin with

## Main results

* `HookNamespace.nodup_keys`: no two slots have the same key
-/

namespace HookGraft.HookNamespace

variable {stem other c d key : String} {capabilities : List String}

/-- What the keys for capabilities begin with. -/
def stems : List String := ["update", "afterUpdate", "getCurrent", "setCurrent"]

/-- The keys that are the same for all capabilities. -/
def fixedKeys : List String := (mapSlots ++ editorSlots).map HookSlot.key

/-- A key comes apart into a stem and a capability in one way. -/
theorem append_inj_of_stems (isStem : stem ∈ stems) (isStem' : other ∈ stems)
    (same : stem ++ c = other ++ d) : stem = other ∧ c = d := by
  have apart : ∀ stem ∈ stems, ∀ other ∈ stems, stem.toList <+: other.toList → stem = other := by
    decide
  have split : stem.toList ++ c.toList = other.toList ++ d.toList := by
    rw [← String.toList_append, same, String.toList_append]
  have equal : stem = other := by
    rcases List.prefix_or_prefix_of_prefix ⟨_, split⟩ (List.prefix_append _ _) with first | second
    · exact apart stem isStem other isStem' first
    · exact (apart other isStem' stem isStem second).symm
  subst equal
  exact ⟨rfl, (String.append_right_inj stem).1 same⟩

/-- A key with a stem is not one of the fixed keys. -/
theorem append_not_mem_fixedKeys (isStem : stem ∈ stems) (c : String) : stem ++ c ∉ fixedKeys := by
  have apart : ∀ stem ∈ stems, ∀ key ∈ fixedKeys, ¬ stem.toList <+: key.toList := by decide
  intro fixed
  refine apart stem isStem _ fixed ?_
  rw [String.toList_append]
  exact List.prefix_append _ _

/-- The keys with two stems for each capability. -/
def keysFor (stem other : String) (capabilities : List String) : List String :=
  capabilities.flatMap fun c => [stem ++ c, other ++ c]

theorem exists_stem_of_mem_pair (member : key ∈ [stem ++ c, other ++ c]) :
    ∃ s ∈ [stem, other], key = s ++ c := by
  rcases List.mem_cons.1 member with rfl | second
  · exact ⟨stem, List.mem_cons_self, rfl⟩
  · exact ⟨other, List.mem_cons_of_mem _ List.mem_cons_self, List.mem_singleton.1 second⟩

/-- A key for a capability begins with one of the two stems. -/
theorem exists_stem (member : key ∈ keysFor stem other capabilities) :
    ∃ s ∈ [stem, other], ∃ c, key = s ++ c := by
  obtain ⟨c, -, here⟩ := List.mem_flatMap.1 member
  obtain ⟨s, isStem, same⟩ := exists_stem_of_mem_pair here
  exact ⟨s, isStem, c, same⟩

theorem nodup_keysFor (are : ∀ s ∈ [stem, other], s ∈ stems) (ne : stem ≠ other)
    (distinct : capabilities.Nodup) : (keysFor stem other capabilities).Nodup := by
  refine List.nodup_flatMap.2 ⟨fun c _ => ?_, distinct.imp fun {c d} differ key left right => ?_⟩
  · refine List.nodup_cons.2 ⟨fun member => ?_, List.nodup_singleton _⟩
    exact ne (append_inj_of_stems (are _ (.head _)) (are _ (.tail _ (.head _)))
      (List.mem_singleton.1 member)).1
  · obtain ⟨s, isStem, rfl⟩ := exists_stem_of_mem_pair left
    obtain ⟨t, isStem', same⟩ := exists_stem_of_mem_pair right
    exact differ (append_inj_of_stems (are s isStem) (are t isStem') same).2

/-- The fixed keys, and those for panels and selections, in another order. -/
theorem perm_keys (ns : HookNamespace) : (ns.slots.map HookSlot.key).Perm (fixedKeys ++
    (keysFor "update" "afterUpdate" ns.updateCapabilities ++
      keysFor "getCurrent" "setCurrent" ns.selectionCapabilities)) := by
  have listed : ns.slots.map HookSlot.key = mapSlots.map HookSlot.key ++
      keysFor "update" "afterUpdate" ns.updateCapabilities ++
        keysFor "getCurrent" "setCurrent" ns.selectionCapabilities ++
        editorSlots.map HookSlot.key := by
    simp only [slots, List.map_append, List.map_flatMap]
    rfl
  rw [listed, fixedKeys, List.map_append, List.append_assoc, List.append_assoc,
    List.append_assoc, ← List.append_assoc (keysFor _ _ _)]
  exact List.perm_append_comm.append_left _

/-- No two slots have the same key. -/
theorem nodup_keys {ns : HookNamespace} (updates : ns.updateCapabilities.Nodup)
    (selections : ns.selectionCapabilities.Nodup) : (ns.slots.map HookSlot.key).Nodup := by
  have panel : ∀ s ∈ ["update", "afterUpdate"], s ∈ stems := by decide
  have selection : ∀ s ∈ ["getCurrent", "setCurrent"], s ∈ stems := by decide
  have apart : ∀ s ∈ ["update", "afterUpdate"], ∀ t ∈ ["getCurrent", "setCurrent"], s ≠ t := by
    decide
  refine (perm_keys ns).nodup_iff.2 (List.nodup_append.2 ⟨by decide, List.nodup_append.2
    ⟨nodup_keysFor panel (by decide) updates, nodup_keysFor selection (by decide) selections, ?_⟩,
    ?_⟩)
  · rintro _ first _ second rfl
    obtain ⟨s, isStem, c, rfl⟩ := exists_stem first
    obtain ⟨t, isStem', d, same⟩ := exists_stem second
    exact apart s isStem t isStem'
      (append_inj_of_stems (panel s isStem) (selection t isStem') same).1
  · rintro _ fixed _ second rfl
    rcases List.mem_append.1 second with second | second
    · obtain ⟨s, isStem, c, rfl⟩ := exists_stem second
      exact append_not_mem_fixedKeys (panel s isStem) c fixed
    · obtain ⟨s, isStem, c, rfl⟩ := exists_stem second
      exact append_not_mem_fixedKeys (selection s isStem) c fixed

end HookGraft.HookNamespace

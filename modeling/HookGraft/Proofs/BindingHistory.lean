import HookGraft.Proofs.Bindings
import HookGraft.Proofs.FirstEntry
import Mathlib.Data.List.Induction
import Mathlib.Data.List.Perm.Subperm

/-!
# Histories of bindings

Bindings that have come about by binding names one after the other list the names in the order of
their first binding, each with the text of its last one. Two of them are equal if the last bindings
are the same, in whatever order the names came.

## Main definitions

* `Bindings.history`: all that has been bound, the seed included
* `Bindings.BoundLast`: the text of the last binding of a name

## Main results

* `Bindings.names_of_history`, `Bindings.get?_of_history`: the names and the texts that are there
* `Bindings.agree_iff`: equality looks at the text of each name, and at nothing else
* `Bindings.ordered_map`: bindings are a map in the order of insertion
-/

namespace HookGraft.Bindings

variable {a b : Bindings} {name key : String} {value text : Text}
  {bound entries : List (String × Text)}

/-! ## Last bindings -/

/-- The text of the last binding of a name. -/
def BoundLast (bound : List (String × Text)) (name : String) (value : Text) : Prop :=
  ∃ before after, bound = before ++ (name, value) :: after ∧ name ∉ after.map Prod.fst

theorem not_boundLast_nil : ¬ BoundLast [] name value := by
  rintro ⟨before, after, whole, -⟩
  simp at whole

/-- What is bound at the end is bound last. -/
theorem boundLast_concat_iff : BoundLast (bound ++ [(key, text)]) name value ↔
    name = key ∧ value = text ∨ name ≠ key ∧ BoundLast bound name value := by
  constructor
  · rintro ⟨before, after, whole, last⟩
    rcases concat_eq_append_cons_iff.1 whole with ⟨rest, rfl, split⟩ | ⟨-, same, -⟩
    · rw [List.map_append, List.mem_append, not_or] at last
      exact .inr ⟨fun same => last.2 (by simp [same]), before, rest, split, last.1⟩
    · exact .inl (Prod.mk.inj same)
  · rintro (⟨rfl, rfl⟩ | ⟨other, before, after, rfl, last⟩)
    · exact ⟨bound, [], rfl, List.not_mem_nil⟩
    · refine ⟨before, after ++ [(key, text)], by simp, ?_⟩
      rw [List.map_append, List.mem_append]
      rintro (again | new)
      · exact last again
      · exact other (List.mem_singleton.1 new)

/-! ## What is there after a history -/

/-- The bindings at the beginning of a history: none, or a seed for the hook namespace. -/
def start : Option Text → Bindings
  | none => empty
  | some root => seeded root

/-- All that is bound in a history, the seed included. Whether a step binds in place or in a copy
that takes the place of what there was makes no difference. -/
def history (seed : Option Text) (steps : List (String × Text)) : List (String × Text) :=
  seed.toList.map (fun root => (namespaceName, root)) ++ steps

/-- The seed is what is bound first. -/
theorem bindAll_start (seed : Option Text) (steps : List (String × Text)) :
    (start seed).bindAll steps = empty.bindAll (history seed steps) := by
  cases seed with
  | none => rfl
  | some root => rfl

theorem bindAll_concat :
    b.bindAll (entries ++ [(name, value)]) = (b.bindAll entries).bind name value :=
  List.foldl_concat ..

theorem names_of_history : (empty.bindAll bound).names = (bound.map Prod.fst).eraseDups := by
  induction bound using List.reverseRecOn with
  | nil => rfl
  | append_singleton bound entry ih =>
    obtain ⟨name, value⟩ := entry
    rw [bindAll_concat, names_bind, ih, List.map_append, List.eraseDups_append]
    by_cases old : name ∈ bound.map Prod.fst
    · rw [if_pos (List.mem_eraseDups.2 old)]
      simp [List.removeAll, old]
    · rw [if_neg (mt List.mem_eraseDups.1 old)]
      simp [List.removeAll, old, List.eraseDups_cons]

theorem get?_of_history :
    (empty.bindAll bound).get? name = some value ↔ BoundLast bound name value := by
  induction bound using List.reverseRecOn with
  | nil => exact iff_of_false nofun not_boundLast_nil
  | append_singleton bound entry ih =>
    obtain ⟨key, text⟩ := entry
    rw [bindAll_concat, get?_bind, boundLast_concat_iff]
    by_cases same : name = key
    · rw [if_pos same, Option.some.injEq]
      simp [same, eq_comm]
    · rw [if_neg same, ih]
      simp [same]

/-! ## Looking names up -/

/-- As no name comes twice, looking a name up finds its entry. -/
theorem get?_eq_some_iff : b.get? name = some value ↔ (name, value) ∈ b.entries := by
  obtain ⟨entries, distinct⟩ := b
  rw [get?]
  induction entries with
  | nil => simp
  | cons entry rest ih =>
    obtain ⟨first, text⟩ := entry
    rw [List.map_cons, List.nodup_cons] at distinct
    by_cases same : name = first
    · subst same
      have once : (name, value) ∉ rest := fun later => distinct.1 (List.mem_map.2 ⟨_, later, rfl⟩)
      simp [once, eq_comm]
    · have other : (name == first) = false := by simpa using same
      simp [List.lookup_cons, other, same, ih distinct.2]

theorem contains_iff : b.contains name = true ↔ name ∈ b.names := by
  rw [contains, Option.isSome_iff_exists, mem_names_iff]

theorem require_eq_ok_iff {rule : String} :
    b.require rule name = .ok value ↔ b.get? name = some value := by
  rw [require]
  cases b.get? name <;> simp

theorem require_eq_error_iff {rule : String} {e : PatchError} :
    b.require rule name = .error e ↔ name ∉ b.names ∧ e = .unresolvedDependency rule name := by
  rw [require, not_mem_names_iff]
  cases b.get? name with
  | none => simp [eq_comm]
  | some value => simp

/-! ## Equality -/

/-- Equality looks at the text of each name, and at nothing else. -/
theorem agree_iff : a.agree b = true ↔ ∀ name, a.get? name = b.get? name := by
  rw [agree, Bool.and_eq_true, beq_iff_eq, List.all_eq_true]
  constructor
  · rintro ⟨size, found⟩ name
    have kept {name : String} {value : Text} (here : a.get? name = some value) :
        b.get? name = some value := by
      simpa using found _ (get?_eq_some_iff.1 here)
    cases here : a.get? name with
    | some value => exact (kept here).symm
    | none =>
      have sub : a.names ⊆ b.names := fun key member => by
        obtain ⟨value, bound⟩ := mem_names_iff.1 member
        exact mem_names_iff.2 ⟨value, kept bound⟩
      have le : b.names.length ≤ a.names.length := by
        rw [names, names, List.length_map, List.length_map]
        exact Nat.le_of_eq size.symm
      have same := (List.subperm_of_subset a.nodup sub).perm_of_length_le le
      exact (not_mem_names_iff.1 fun there => not_mem_names_iff.2 here (same.mem_iff.2 there)).symm
  · intro same
    have members (name : String) : name ∈ a.names ↔ name ∈ b.names := by
      rw [mem_names_iff, mem_names_iff, same name]
    refine ⟨?_, fun entry member => ?_⟩
    · have perm := (List.perm_ext_iff_of_nodup a.nodup b.nodup).2 members
      simpa [size] using perm.length_eq
    · simpa [← same] using get?_eq_some_iff.2 member

/-! ## A map in the order of insertion -/

/-- After any history, from nothing or from a seed, the entries list the names ever bound in the
order of their first binding, each once, with the text of its last binding. All lookups agree with
that list: a name that is absent is the one reason why a required one is not found. Two histories end
with equal bindings just if the last binding of every name is the same, in whatever order they came. -/
theorem ordered_map (seed : Option Text) (steps : List (String × Text)) :
    let bound := history seed steps
    let b := (start seed).bindAll steps
    (ListsFirstUses (bound.map Prod.fst) (b.entries.map Prod.fst) ∧
      ∀ name value, (name, value) ∈ b.entries ↔ BoundLast bound name value) ∧
    (∀ name value, b.get? name = some value ↔ (name, value) ∈ b.entries) ∧
    (∀ name, b.contains name = true ↔ name ∈ b.entries.map Prod.fst) ∧
    (∀ rule name value, b.require rule name = .ok value ↔ (name, value) ∈ b.entries) ∧
    (∀ rule name e, b.require rule name = .error e ↔
      name ∉ b.entries.map Prod.fst ∧ e = .unresolvedDependency rule name) ∧
    b.size = b.entries.length ∧
    ∀ seed' steps', b.agree ((start seed').bindAll steps') = true ↔
      ∀ name value, BoundLast bound name value ↔ BoundLast (history seed' steps') name value := by
  intro bound b
  have whole : b = empty.bindAll bound := bindAll_start seed steps
  refine ⟨⟨?_, fun name value => ?_⟩, fun name value => get?_eq_some_iff, fun name => contains_iff,
    fun rule name value => require_eq_ok_iff.trans get?_eq_some_iff,
    fun rule name e => require_eq_error_iff, rfl, fun seed' steps' => ?_⟩
  · have names : b.entries.map Prod.fst = (bound.map Prod.fst).eraseDups :=
      whole ▸ names_of_history
    rw [names]
    exact listsFirstUses_eraseDups _
  · rw [← get?_eq_some_iff, whole, get?_of_history]
  · rw [agree_iff, whole, bindAll_start]
    refine forall_congr' fun name => ?_
    rw [Option.ext_iff]
    simp only [get?_of_history]

/-- The seed is bound again: it keeps its place, and the last text counts. -/
example : ((start (some ['w'])).bindAll [("a", ['1']), ("ns", ['x']), ("a", ['2'])]).entries =
    [("ns", ['x']), ("a", ['2'])] := by decide

end HookGraft.Bindings

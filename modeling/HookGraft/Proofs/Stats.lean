import HookGraft.Pipeline.Stats

/-!
# What counting changes

A table of statistics holds the counters of each rule once, by the name of the rule. Counting for
one name leaves the counters of the other names alone.

## Main definitions

* `StatsTable.entry`: the counters of a rule, which are zero if the table does not have them
* `StatsTable.Counted`: how the counters change when some rules have been applied, the last of which
  may have failed

## Main results

* `StatsTable.entry_update`: a change of one entry is seen under one name
* `StatsTable.Counted.trans`: counting goes on where it stopped
-/

namespace HookGraft.StatsTable

variable {table old new newer : StatsTable} {name key : String} {change : RuleStats → RuleStats}

/-! ## Entries -/

/-- The counters of a rule, which are zero if the table does not have them. -/
def entry (table : StatsTable) (name : String) : RuleStats :=
  (table.get? name).getD { ruleName := name }

@[simp] theorem names_cons {s : RuleStats} : names (s :: table) = s.ruleName :: names table := rfl

@[simp] theorem get?_nil : get? [] name = none := rfl

theorem get?_cons {s : RuleStats} :
    get? (s :: table) name = if s.ruleName = name then some s else get? table name := by
  by_cases h : s.ruleName = name <;> simp [get?, h]

/-- If no name comes twice, the counters of a rule are found under its name. -/
theorem entry_of_mem {s : RuleStats} (distinct : table.names.Nodup) (member : s ∈ table) :
    table.entry s.ruleName = s := by
  induction table with
  | nil => contradiction
  | cons first rest ih =>
    obtain ⟨new, others⟩ := List.nodup_cons.1 distinct
    rw [entry, get?_cons]
    rcases List.mem_cons.1 member with rfl | later
    · rw [if_pos rfl, Option.getD_some]
    · have other : first.ruleName ≠ s.ruleName := fun same =>
        new (same ▸ List.mem_map_of_mem later)
      rw [if_neg other]
      exact ih others later

/-! ## Changes of one entry -/

section Update

variable (keeps : ∀ s : RuleStats, s.ruleName = name → (change s).ruleName = name)
include keeps

theorem names_update : (table.update name change).names =
    if name ∈ table.names then table.names else table.names ++ [name] := by
  induction table with
  | nil => simp [update, names, keeps]
  | cons s rest ih =>
    by_cases h : s.ruleName = name
    · simp [update, h, keeps s h]
    · have h' : name ≠ s.ruleName := fun e => h e.symm
      rw [update, if_neg h, names_cons, names_cons, ih]
      simp only [List.mem_cons, h', false_or]
      split
      · rfl
      · rfl

theorem get?_update : (table.update name change).get? key =
    if key = name then some (change (table.entry name)) else table.get? key := by
  induction table with
  | nil =>
    have named := keeps { ruleName := name } rfl
    by_cases h : key = name
    · simp [update, get?_cons, named, h, entry]
    · have h' : name ≠ key := fun e => h e.symm
      simp [update, get?_cons, named, h, h']
  | cons s rest ih =>
    by_cases h : s.ruleName = name
    · have named := keeps s h
      by_cases hk : key = name
      · simp [update, get?_cons, entry, h, named, hk]
      · have hk' : name ≠ key := fun e => hk e.symm
        simp [update, get?_cons, h, named, hk, hk']
    · have skipped : entry (s :: rest) name = entry rest name := by
        rw [entry, get?_cons, if_neg h, entry]
      rw [update, if_neg h, get?_cons, get?_cons, ih, skipped]
      by_cases hk : key = name
      · rw [if_pos hk, if_pos hk, if_neg (hk ▸ h)]
      · rw [if_neg hk, if_neg hk]

/-- Two changes of one entry are one change. -/
theorem update_update (more : RuleStats → RuleStats) :
    (table.update name change).update name more = table.update name (more ∘ change) := by
  induction table with
  | nil =>
    have named := keeps { ruleName := name } rfl
    simp [update, named]
  | cons s rest ih =>
    by_cases h : s.ruleName = name
    · rw [update, if_pos h, update, if_pos (keeps s h), update, if_pos h, Function.comp_apply]
    · rw [update, if_neg h, update, if_neg h, update, if_neg h, ih]

/-- A change of one entry is seen under one name. -/
theorem entry_update : (table.update name change).entry key =
    if key = name then change (table.entry name) else table.entry key := by
  rw [entry, get?_update keeps]
  by_cases h : key = name
  · rw [if_pos h, if_pos h, Option.getD_some]
  · rw [if_neg h, if_neg h, entry]

end Update

theorem names_reset : (table.reset name).names =
    if name ∈ table.names then table.names else table.names ++ [name] :=
  names_update fun _ _ => rfl

theorem entry_reset : (table.reset name).entry key =
    if key = name then { ruleName := name } else table.entry key :=
  entry_update fun _ _ => rfl

theorem names_clear : table.clear.names = table.names := by
  simp [names, clear, Function.comp_def]

/-- All counters are zero when they have been cleared. -/
theorem entry_clear : table.clear.entry name = { ruleName := name } := by
  induction table with
  | nil => rfl
  | cons s rest ih =>
    rw [clear, List.map_cons, entry, get?_cons]
    by_cases h : s.ruleName = name
    · rw [if_pos h, Option.getD_some, h]
    · rw [if_neg h]
      exact ih

/-! ## Applications -/

/-- How the counters change when the rules with the names `reached` have been applied, and the rule
with the name `failed`, if there is one, has failed. -/
structure Counted (reached : List String) (failed : Option String) (old new : StatsTable) :
    Prop where
  names : new.names = old.names
  applications : ∀ name,
    (new.entry name).applications = (old.entry name).applications + reached.count name
  errors : ∀ name,
    (new.entry name).errors = (old.entry name).errors + if failed = some name then 1 else 0
  untouched : ∀ name, name ∉ reached → new.get? name = old.get? name

theorem begin_keeps (s : RuleStats) (h : s.ruleName = name) : s.begin.ruleName = name := h

namespace Counted

variable {reached further : List String} {failed : Option String}

theorem refl (table : StatsTable) : Counted [] none table table :=
  ⟨rfl, fun _ => rfl, fun _ => rfl, fun _ _ => rfl⟩

/-- Counting goes on where it stopped. -/
theorem trans (h : Counted reached none old new) (h' : Counted further failed new newer) :
    Counted (reached ++ further) failed old newer where
  names := h'.names.trans h.names
  applications name := by
    rw [h'.applications, h.applications, List.count_append, Nat.add_assoc]
  errors name := by
    rw [h'.errors, h.errors, if_neg nofun, Nat.add_zero]
  untouched name other := by
    obtain ⟨first, later⟩ := not_or.1 (mt List.mem_append.2 other)
    exact (h'.untouched name later).trans (h.untouched name first)

/-- One rule has been applied. -/
theorem of_update (member : name ∈ old.names) (failed : Option String)
    (keeps : ∀ s, (change s).ruleName = s.ruleName)
    (applied : ∀ s, (change s).applications = s.applications + 1)
    (errors : ∀ s, (change s).errors = s.errors + if failed = some name then 1 else 0)
    (own : ∀ key, failed = some key → key = name) :
    Counted [name] failed old (old.update name change) := by
  have named : ∀ s : RuleStats, s.ruleName = name → (change s).ruleName = name :=
    fun s h => (keeps s).trans h
  refine ⟨?_, fun key => ?_, fun key => ?_, fun key other => ?_⟩
  · rw [names_update named, if_pos member]
  · rw [entry_update named, List.count_singleton]
    by_cases h : key = name
    · simp [h, applied]
    · have h' : (name == key) = false := beq_eq_false_iff_ne.2 fun e => h e.symm
      simp [h, h']
  · rw [entry_update named]
    by_cases h : key = name
    · rw [if_pos h, h, errors]
    · rw [if_neg h, if_neg fun e => h (own key e), Nat.add_zero]
  · rw [get?_update named, if_neg fun e => other (List.mem_singleton.2 e)]

/-- A rule has been applied and has succeeded. -/
theorem succeed (member : name ∈ old.names) (sites : Nat) : Counted [name] none old
    ((old.update name RuleStats.begin).update name (RuleStats.succeed sites)) := by
  rw [update_update begin_keeps]
  exact of_update member none (fun _ => rfl) (fun _ => rfl) (fun _ => rfl) nofun

/-- A rule has been applied and has failed. -/
theorem fail (member : name ∈ old.names) : Counted [name] (some name) old
    ((old.update name RuleStats.begin).update name RuleStats.fail) := by
  rw [update_update begin_keeps]
  exact of_update member (some name) (fun _ => rfl) (fun _ => rfl)
    (fun s => by rw [if_pos rfl]; rfl) fun _ same => (Option.some.inj same).symm

end Counted

end HookGraft.StatsTable

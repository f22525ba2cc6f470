import HookGraft.Bindings

/-!
# What binding changes

Binding a name leaves the other names alone: their texts, and their places in the order.

## Main definitions

* `Bindings.textOf`: the text that is bound to a name, or nothing
* `Bindings.bindAll`: binds several names one after the other
* `Bindings.Extends`: bindings that differ from others by some names only
* `Bindings.Gains`: bindings that have come about by binding some names in order

## Main results

* `Bindings.names_bindAll`: new names stand behind the old ones, in the order of binding
* `Bindings.extends_bindAll`: binding changes nothing but the names that are bound
-/

namespace HookGraft.Bindings

variable {b b' b'' : Bindings} {name key : String} {value : Text}

/-! ## Bound names -/

theorem mem_names_iff : name ∈ b.names ↔ ∃ value, b.get? name = some value := by
  rw [names, get?]
  induction b.entries with
  | nil => simp
  | cons entry rest ih =>
    obtain ⟨first, bound⟩ := entry
    by_cases h : name = first
    · simp [h]
    · have h' : (name == first) = false := by simpa using h
      simp only [List.map_cons, List.mem_cons, h, false_or, List.lookup_cons, h', ih]

theorem not_mem_names_iff : name ∉ b.names ↔ b.get? name = none := by
  rw [mem_names_iff, Option.eq_none_iff_forall_ne_some, not_exists]

@[simp] theorem mem_names_bind : key ∈ (b.bind name value).names ↔ key ∈ b.names ∨ key = name := by
  rw [names_bind]
  split
  · rename_i h
    constructor
    · exact .inl
    · rintro (h' | rfl)
      · exact h'
      · exact h
  · simp

theorem names_subset_bind (name : String) (value : Text) : b.names ⊆ (b.bind name value).names :=
  fun _ old => mem_names_bind.2 (.inl old)

@[simp] theorem get?_bind_self : (b.bind name value).get? name = some value := by
  rw [get?_bind, if_pos rfl]

theorem get?_bind_of_ne (h : key ≠ name) : (b.bind name value).get? key = b.get? key := by
  rw [get?_bind, if_neg h]

/-- A name that is bound keeps its value when another one is bound. -/
theorem get?_bind_bind {other : String} {value' : Text} (h : key ≠ other) :
    ((b.bind key value).bind other value').get? key = some value := by
  rw [get?_bind_of_ne h, get?_bind_self]

/-- What a name is bound to stays when another one is bound. -/
theorem bound_bind (other : String) (value' : Text) (bound : b.get? key = some value)
    (h : key ≠ other) : (b.bind other value').get? key = some value :=
  (get?_bind_of_ne h).trans bound

/-- The text that is bound to a name, or nothing. -/
def textOf (b : Bindings) (name : String) : Text := (b.get? name).getD []

theorem textOf_eq (bound : b.get? name = some value) : b.textOf name = value := by
  rw [textOf, bound, Option.getD_some]

/-! ## Several names -/

/-- Binds several names one after the other. -/
def bindAll (b : Bindings) (entries : List (String × Text)) : Bindings :=
  entries.foldl (fun b entry => b.bind entry.1 entry.2) b

variable {entries more : List (String × Text)}

@[simp] theorem bindAll_nil : b.bindAll [] = b := rfl

@[simp] theorem bindAll_cons {entry : String × Text} :
    b.bindAll (entry :: entries) = (b.bind entry.1 entry.2).bindAll entries := rfl

theorem bindAll_append : b.bindAll (entries ++ more) = (b.bindAll entries).bindAll more := by
  rw [bindAll, List.foldl_append]
  rfl

theorem mem_names_bindAll :
    key ∈ (b.bindAll entries).names ↔ key ∈ b.names ∨ key ∈ entries.map Prod.fst := by
  induction entries generalizing b with
  | nil => simp
  | cons entry rest ih => simp [ih, or_assoc]

/-- New names stand behind the old ones, in the order in which they are bound. -/
theorem names_bindAll (fresh : ∀ entry ∈ entries, entry.1 ∉ b.names)
    (distinct : (entries.map Prod.fst).Nodup) :
    (b.bindAll entries).names = b.names ++ entries.map Prod.fst := by
  induction entries generalizing b with
  | nil => simp
  | cons entry rest ih =>
    obtain ⟨new, others⟩ := List.forall_mem_cons.1 fresh
    rw [List.map_cons, List.nodup_cons] at distinct
    have first : (b.bind entry.1 entry.2).names = b.names ++ [entry.1] := by
      rw [names_bind, if_neg new]
    rw [bindAll_cons, ih _ distinct.2, first, List.map_cons, List.append_assoc]
    · rfl
    · intro other member
      rw [mem_names_bind]
      rintro (old | same)
      · exact others other member old
      · exact distinct.1 (same ▸ List.mem_map_of_mem member)

/-! ## What stays as it was -/

/-- Bindings that differ from others by some names only. The names bound before have kept their
places, and all but those names have kept their texts. -/
structure Extends (changed : List String) (b b' : Bindings) : Prop where
  order : b.names <+: b'.names
  added : ∀ name ∈ b'.names, name ∈ b.names ∨ name ∈ changed
  kept : ∀ name ∉ changed, b'.get? name = b.get? name

variable {changed : List String}

namespace Extends

theorem refl (changed : List String) (b : Bindings) : Extends changed b b :=
  ⟨List.prefix_rfl, fun _ => .inl, fun _ _ => rfl⟩

theorem trans (h : Extends changed b b') (h' : Extends changed b' b'') :
    Extends changed b b'' where
  order := h.order.trans h'.order
  added name member := by
    rcases h'.added name member with old | new
    · exact h.added name old
    · exact .inr new
  kept name other := (h'.kept name other).trans (h.kept name other)

/-- No name is lost. -/
theorem subset (h : Extends changed b b') : b.names ⊆ b'.names := h.order.subset

end Extends

theorem extends_bind (h : name ∈ changed) : Extends changed b (b.bind name value) where
  order := by
    rw [names_bind]
    split
    · exact List.prefix_rfl
    · exact List.prefix_append _ _
  added key member := by
    rcases mem_names_bind.1 member with old | rfl
    · exact .inl old
    · exact .inr h
  kept key other := get?_bind_of_ne fun same => other (same ▸ h)

/-- Binding changes nothing but the names that are bound. -/
theorem extends_bindAll (h : ∀ entry ∈ entries, entry.1 ∈ changed) :
    Extends changed b (b.bindAll entries) := by
  induction entries generalizing b with
  | nil => exact .refl changed b
  | cons entry rest ih =>
    obtain ⟨first, others⟩ := List.forall_mem_cons.1 h
    exact (extends_bind first).trans (ih others)

theorem get?_bindAll_of_not_mem (h : key ∉ entries.map Prod.fst) :
    (b.bindAll entries).get? key = b.get? key :=
  (extends_bindAll fun _ member => List.mem_map_of_mem member).kept key h

/-- A name that is bound has one of the texts that it is bound to. -/
theorem exists_get?_bindAll (h : key ∈ entries.map Prod.fst) :
    ∃ value, (key, value) ∈ entries ∧ (b.bindAll entries).get? key = some value := by
  induction entries generalizing b with
  | nil => contradiction
  | cons entry rest ih =>
    by_cases again : key ∈ rest.map Prod.fst
    · obtain ⟨value, member, bound⟩ := ih (b := b.bind entry.1 entry.2) again
      exact ⟨value, List.mem_cons_of_mem entry member, bound⟩
    · obtain ⟨name, value⟩ := entry
      obtain rfl := (List.mem_cons.1 h).resolve_right again
      exact ⟨value, List.mem_cons_self, (get?_bindAll_of_not_mem again).trans get?_bind_self⟩

/-- If no name comes twice, each is bound to its text. -/
theorem get?_bindAll_of_mem (distinct : (entries.map Prod.fst).Nodup)
    (member : (key, value) ∈ entries) : (b.bindAll entries).get? key = some value := by
  induction entries generalizing b with
  | nil => contradiction
  | cons entry rest ih =>
    obtain ⟨apart, distinct⟩ := List.nodup_cons.1 distinct
    rcases List.mem_cons.1 member with rfl | later
    · exact (get?_bindAll_of_not_mem apart).trans get?_bind_self
    · exact ih distinct later

/-! ## Names gained in order -/

/-- Bindings that have come about by binding some names, in this order. -/
def Gains (gained : List String) (b b' : Bindings) : Prop :=
  ∃ entries : List (String × Text), entries.map Prod.fst = gained ∧ b' = b.bindAll entries

namespace Gains

variable {gained further : List String}

theorem nil (b : Bindings) : Gains [] b b := ⟨[], rfl, rfl⟩

theorem bind (h : Gains gained b b') (name : String) (value : Text) :
    Gains (gained ++ [name]) b (b'.bind name value) := by
  obtain ⟨entries, rfl, rfl⟩ := h
  exact ⟨entries ++ [(name, value)], by simp, by rw [bindAll_append]; rfl⟩

theorem single (b : Bindings) (name : String) (value : Text) : Gains [name] b (b.bind name value) :=
  (nil b).bind name value

theorem trans (h : Gains gained b b') (h' : Gains further b' b'') :
    Gains (gained ++ further) b b'' := by
  obtain ⟨entries, rfl, rfl⟩ := h
  obtain ⟨more, rfl, rfl⟩ := h'
  exact ⟨entries ++ more, List.map_append, bindAll_append.symm⟩

/-- The names bound before and the names gained are bound now, and no others. -/
theorem mem_names (h : Gains gained b b') : name ∈ b'.names ↔ name ∈ b.names ∨ name ∈ gained := by
  obtain ⟨entries, rfl, rfl⟩ := h
  exact mem_names_bindAll

/-- Nothing changes but the names gained. -/
theorem frame (h : Gains gained b b') (changed : List String) (sub : gained ⊆ changed) :
    Extends changed b b' := by
  obtain ⟨entries, rfl, rfl⟩ := h
  exact extends_bindAll fun entry member => sub (List.mem_map_of_mem member)

/-- New names stand behind the old ones, in the order in which they are gained. -/
theorem names_eq (h : Gains gained b b') (fresh : ∀ name ∈ gained, name ∉ b.names)
    (distinct : gained.Nodup) : b'.names = b.names ++ gained := by
  obtain ⟨entries, rfl, rfl⟩ := h
  exact names_bindAll (fun entry member => fresh entry.1 (List.mem_map_of_mem member)) distinct

end Gains

end HookGraft.Bindings

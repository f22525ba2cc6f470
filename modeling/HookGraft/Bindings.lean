import HookGraft.PatchError

/-!
# Bindings

The identifiers found so far, by name, in the order in which the names were first bound.

## Main definitions

* `Bindings`: texts bound to names, each name once
* `Bindings.bind`: binds a name, which keeps its position if it was bound before
* `Bindings.get?`, `Bindings.require`: the text bound to a name
* `Bindings.agree`: equality without regard to order

## Main results

* `Bindings.names_bind`: binding adds a name at the end, or none at all
* `Bindings.get?_bind`: the last binding of a name counts
-/

namespace HookGraft

/-- Texts bound to names, in the order of the first binding of each name. -/
structure Bindings where
  entries : List (String × Text)
  nodup : (entries.map Prod.fst).Nodup := by simp

namespace Bindings

/-- Binds a name in a list of entries: in place if it is there, else at the end. -/
def put (name : String) (value : Text) : List (String × Text) → List (String × Text)
  | [] => [(name, value)]
  | (key, bound) :: rest =>
    if key = name then (key, value) :: rest else (key, bound) :: put name value rest

theorem map_fst_put (name : String) (value : Text) (entries : List (String × Text)) :
    (put name value entries).map Prod.fst =
      if name ∈ entries.map Prod.fst then entries.map Prod.fst
      else entries.map Prod.fst ++ [name] := by
  induction entries with
  | nil => simp [put]
  | cons entry rest ih =>
    obtain ⟨key, bound⟩ := entry
    by_cases h : key = name
    · simp [put, h]
    · have h' : name ≠ key := fun e => h e.symm
      simp only [put, h, if_false, List.map_cons, ih, List.mem_cons, h', false_or]
      split <;> simp

theorem lookup_put (name key : String) (value : Text) (entries : List (String × Text)) :
    (put name value entries).lookup key =
      if key = name then some value else entries.lookup key := by
  induction entries with
  | nil =>
    by_cases h : key = name
    · simp [put, h]
    · have h' : (key == name) = false := by simpa using h
      simp [put, h, List.lookup_cons, h']
  | cons entry rest ih =>
    obtain ⟨first, bound⟩ := entry
    by_cases h : first = name
    · subst h
      by_cases hk : key = first
      · simp [put, hk]
      · have hk' : (key == first) = false := by simpa using hk
        simp [put, hk, List.lookup_cons, hk']
    · by_cases hk : key = first
      · simp [put, h, hk]
      · have hk' : (key == first) = false := by simpa using hk
        simp [put, h, List.lookup_cons, hk', ih]

/-- Nothing is bound. -/
def empty : Bindings := { entries := [] }

instance : Inhabited Bindings := ⟨empty⟩

/-- The bound names, in the order of their first binding. -/
def names (b : Bindings) : List String := b.entries.map Prod.fst

/-- Binds a name to a text. A name that was bound before keeps its position. -/
def bind (b : Bindings) (name : String) (value : Text) : Bindings where
  entries := put name value b.entries
  nodup := by
    rw [map_fst_put]
    split
    · exact b.nodup
    · rename_i h
      exact List.nodup_append.2 ⟨b.nodup, by simp, by
        intro x hx y hy
        rw [List.mem_singleton.1 hy]
        exact fun e => h (e ▸ hx)⟩

theorem names_bind (b : Bindings) (name : String) (value : Text) :
    (b.bind name value).names = if name ∈ b.names then b.names else b.names ++ [name] :=
  map_fst_put name value b.entries

/-- The text bound to a name. -/
def get? (b : Bindings) (name : String) : Option Text := b.entries.lookup name

theorem get?_bind (b : Bindings) (name key : String) (value : Text) :
    (b.bind name value).get? key = if key = name then some value else b.get? key :=
  lookup_put name key value b.entries

/-- Whether a name is bound. -/
def contains (b : Bindings) (name : String) : Bool := (b.get? name).isSome

/-- The number of bound names. -/
def size (b : Bindings) : Nat := b.entries.length

/-- The text bound to a name that a rule depends on. -/
def require (b : Bindings) (rule name : String) : Except PatchError Text :=
  match b.get? name with
  | some value => .ok value
  | none => .error (.unresolvedDependency rule name)

/-- Whether two bindings bind the same names to the same texts, in whatever order. -/
def agree (a b : Bindings) : Bool :=
  a.size == b.size && a.entries.all fun entry => b.get? entry.1 == some entry.2

/-- The name that the expression for the hook namespace is bound to. -/
def namespaceName : String := "ns"

/-- The bindings at the beginning of a run: the expression for the hook namespace alone. -/
def seeded (root : Text) : Bindings := empty.bind namespaceName root

end Bindings

end HookGraft

/-!
# Ropes

A list is kept as a function of the index. It is put together from two halves again and again, so
that it takes few comparisons to find an element.

## Main definitions

* `Rope`: lists as functions
* `Rope.join`: two ropes, one behind the other
* `Rope.ofList`: a rope for a list

## Main results

* `Rope.get?_ofList`: the rope for a list has its elements
-/

namespace HookGraft

/-- Lists as functions. -/
structure Rope (α : Type) where
  /-- the number of elements -/
  size : Nat
  /-- the element with an index -/
  get? : Nat → Option α

namespace Rope

variable {α : Type}

/-- No element. -/
def nil : Rope α := ⟨0, fun _ => none⟩

/-- One element. -/
def single (a : α) : Rope α := ⟨1, fun n => bif Nat.beq n 0 then some a else none⟩

/-- Two ropes, one behind the other. -/
def join (left right : Rope α) : Rope α where
  size := left.size + right.size
  get? n := bif Nat.blt n left.size then left.get? n else right.get? (n - left.size)

/-- Joins every rope at an even index with the one behind it. -/
def joinPairs : List (Rope α) → List (Rope α)
  | left :: right :: rest => left.join right :: joinPairs rest
  | ropes => ropes

/-- Joins some ropes, of which there are at most `depth`. -/
def joinAll : (depth : Nat) → List (Rope α) → Rope α
  | _, [] | 0, _ => nil
  | _, [rope] => rope
  | depth + 1, ropes => joinAll depth (joinPairs ropes)

/-- A rope for a list. -/
def ofList (list : List α) : Rope α := joinAll list.length (list.map single)

/-! ## The elements of a rope -/

/-- A rope has the elements of a list. -/
structure Holds (rope : Rope α) (list : List α) : Prop where
  size : rope.size = list.length
  get? (n : Nat) : rope.get? n = list[n]?

/-- Some ropes have the elements of a list, one rope after the other. -/
inductive HoldAll : List (Rope α) → List α → Prop where
  | nil : HoldAll [] []
  | cons {rope : Rope α} {ropes : List (Rope α)} {list more : List α} :
    Holds rope list → HoldAll ropes more → HoldAll (rope :: ropes) (list ++ more)

variable {left right : Rope α} {ropes : List (Rope α)} {a : α} {list more : List α} {n : Nat}

theorem Holds.nil : Holds nil ([] : List α) := ⟨rfl, fun _ => rfl⟩

theorem Holds.single : Holds (single a) [a] where
  size := rfl
  get? n := by cases n <;> rfl

theorem Holds.join (h : Holds left list) (h' : Holds right more) :
    Holds (left.join right) (list ++ more) where
  size := by rw [Rope.join, h.size, h'.size, List.length_append]
  get? n := by
    show (bif Nat.blt n left.size then left.get? n else right.get? (n - left.size)) = _
    rw [h.get?, h'.get?, h.size, List.getElem?_append]
    by_cases inside : n < list.length
    · have inside' : Nat.blt n list.length = true := by rwa [Nat.blt_eq]
      rw [if_pos inside, inside']
      rfl
    · have behind : Nat.blt n list.length = false := by rwa [Bool.eq_false_iff, ne_eq, Nat.blt_eq]
      rw [if_neg inside, behind]
      rfl

namespace HoldAll

theorem map_single (list : List α) : HoldAll (list.map .single) list := by
  induction list with
  | nil => exact .nil
  | cons a rest ih => exact .cons .single ih

theorem joinPairs (h : HoldAll ropes list) : HoldAll (joinPairs ropes) list := by
  fun_induction Rope.joinPairs ropes generalizing list with
  | case1 left right rest ih =>
    obtain _ | ⟨first, _ | ⟨second, others⟩⟩ := h
    rw [← List.append_assoc]
    exact .cons (first.join second) (ih others)
  | case2 => exact h

theorem length_joinPairs (ropes : List (Rope α)) :
    (Rope.joinPairs ropes).length ≤ ropes.length := by
  fun_induction Rope.joinPairs ropes with
  | case1 left right rest ih => simp only [List.length_cons]; omega
  | case2 => exact Nat.le_refl _

theorem joinAll {depth : Nat} (h : HoldAll ropes list) (few : ropes.length ≤ depth) :
    Holds (joinAll depth ropes) list := by
  induction depth generalizing ropes with
  | zero =>
    obtain rfl := List.length_eq_zero_iff.1 (Nat.le_zero.1 few)
    cases h
    exact .nil
  | succ depth ih =>
    match ropes, h with
    | [], .nil => exact .nil
    | [rope], .cons first .nil =>
      rw [List.append_nil]
      exact first
    | left :: right :: rest, h =>
      refine ih h.joinPairs ?_
      have fewer := length_joinPairs rest
      simp only [List.length_cons] at few
      simp only [Rope.joinPairs, List.length_cons]
      omega

end HoldAll

/-- The rope for a list has its elements. -/
@[simp] theorem get?_ofList (list : List α) (n : Nat) : (ofList list).get? n = list[n]? :=
  ((HoldAll.map_single list).joinAll (by simp)).get? n

end Rope

end HookGraft

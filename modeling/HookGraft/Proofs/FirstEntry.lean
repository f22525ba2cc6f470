import HookGraft.Proofs.Fallible
import Mathlib.Data.List.Basic

/-!
# First entries

Going through a list with a step that may fail stops at the first entry for which it fails. Which
entry that is does not depend on entries that are repeated later on.

## Main definitions

* `IsFirstWith`: the first entry of a list with a property
* `FirstFailure`: the failure of the first entry for which a step fails
* `ListsFirstUses`: the entries of a list in the order of their first use

## Main results

* `Except.forM_eq_error_iff`: a list of checks fails as the first one that fails
* `listsFirstUses_eraseDups`: dropping repeated entries leaves the first uses
* `isFirstWith_eraseDups_iff`: dropping repeated entries does not change the first one with a
  property
-/

namespace HookGraft

variable {α β ε : Type} {P : α → Prop} {xs : List α} {x y : α} {e : ε}

/-! ## The first entry with a property -/

/-- The first entry of a list with a property. -/
def IsFirstWith (P : α → Prop) (xs : List α) (x : α) : Prop :=
  ∃ before after, xs = before ++ x :: after ∧ (∀ y ∈ before, ¬ P y) ∧ P x

theorem IsFirstWith.holds (h : IsFirstWith P xs x) : P x := by
  obtain ⟨-, -, -, -, here⟩ := h
  exact here

theorem IsFirstWith.mem (h : IsFirstWith P xs x) : x ∈ xs := by
  obtain ⟨before, after, rfl, -, -⟩ := h
  exact List.mem_append_right before List.mem_cons_self

theorem not_isFirstWith_nil : ¬ IsFirstWith P [] x := fun h => List.not_mem_nil h.mem

theorem isFirstWith_cons_iff :
    IsFirstWith P (y :: xs) x ↔ P y ∧ x = y ∨ ¬ P y ∧ IsFirstWith P xs x := by
  constructor
  · rintro ⟨before, after, whole, others, here⟩
    cases before with
    | nil =>
      obtain ⟨rfl, -⟩ := List.cons.inj whole
      exact .inl ⟨here, rfl⟩
    | cons z before =>
      obtain ⟨rfl, rfl⟩ := List.cons.inj whole
      obtain ⟨first, others⟩ := List.forall_mem_cons.1 others
      exact .inr ⟨first, before, after, rfl, others, here⟩
  · rintro (⟨here, rfl⟩ | ⟨first, before, after, rfl, others, here⟩)
    · exact ⟨[], xs, rfl, nofun, here⟩
    · exact ⟨y :: before, after, rfl, List.forall_mem_cons.2 ⟨first, others⟩, here⟩

/-- If some entry has the property, one of them is the first. -/
theorem exists_isFirstWith (member : x ∈ xs) (here : P x) : ∃ y, IsFirstWith P xs y := by
  induction xs with
  | nil => contradiction
  | cons z xs ih =>
    by_cases first : P z
    · exact ⟨z, isFirstWith_cons_iff.2 (.inl ⟨first, rfl⟩)⟩
    · rcases List.mem_cons.1 member with rfl | later
      · contradiction
      · obtain ⟨y, isFirst⟩ := ih later
        exact ⟨y, isFirstWith_cons_iff.2 (.inr ⟨first, isFirst⟩)⟩

theorem find?_eq_some_iff_isFirstWith {p : α → Bool} :
    xs.find? p = some x ↔ IsFirstWith (fun y => p y = true) xs x := by
  rw [List.find?_eq_some_iff_append]
  constructor
  · rintro ⟨here, before, after, whole, others⟩
    exact ⟨before, after, whole, fun y member => by simpa using others y member, here⟩
  · rintro ⟨before, after, whole, others, here⟩
    exact ⟨here, before, after, whole, fun y member => by simpa using others y member⟩

/-- Entries without the property may be left out. -/
theorem isFirstWith_filter_iff {p : α → Bool} (kept : ∀ y ∈ xs, P y → p y = true) :
    IsFirstWith P (xs.filter p) x ↔ IsFirstWith P xs x := by
  induction xs with
  | nil => rfl
  | cons y xs ih =>
    obtain ⟨first, others⟩ := List.forall_mem_cons.1 kept
    by_cases here : p y
    · rw [List.filter_cons_of_pos here, isFirstWith_cons_iff, isFirstWith_cons_iff, ih others]
    · have without : ¬ P y := fun h => here (first h)
      rw [List.filter_cons_of_neg here, isFirstWith_cons_iff, ih others]
      simp [without]

/-! ## Steps that may fail -/

/-- The failure of the first entry for which a step fails. -/
def FirstFailure (f : α → Except ε β) (xs : List α) (e : ε) : Prop :=
  ∃ x, IsFirstWith (fun y => ∃ e', f y = .error e') xs x ∧ f x = .error e

theorem not_firstFailure_nil {f : α → Except ε β} : ¬ FirstFailure f [] e :=
  fun ⟨_, first, _⟩ => not_isFirstWith_nil first

theorem firstFailure_cons_iff {f : α → Except ε β} : FirstFailure f (x :: xs) e ↔
    f x = .error e ∨ (∃ b, f x = .ok b) ∧ FirstFailure f xs e := by
  constructor
  · rintro ⟨y, first, failed⟩
    rcases isFirstWith_cons_iff.1 first with ⟨-, rfl⟩ | ⟨fine, later⟩
    · exact .inl failed
    · cases here : f x with
      | error e' => exact absurd ⟨e', here⟩ fine
      | ok b => exact .inr ⟨⟨b, rfl⟩, y, later, failed⟩
  · rintro (failed | ⟨⟨b, here⟩, y, later, failed⟩)
    · exact ⟨x, isFirstWith_cons_iff.2 (.inl ⟨⟨e, failed⟩, rfl⟩), failed⟩
    · refine ⟨y, isFirstWith_cons_iff.2 (.inr ⟨?_, later⟩), failed⟩
      rintro ⟨e', there⟩
      rw [here] at there
      contradiction

/-- If the step fails for some entry, there is a first failure. -/
theorem exists_firstFailure {f : α → Except ε β} (member : x ∈ xs) (failed : ∃ e, f x = .error e) :
    ∃ e, FirstFailure f xs e := by
  obtain ⟨y, first⟩ := exists_isFirstWith (P := fun y => ∃ e, f y = .error e) member failed
  obtain ⟨e, here⟩ := first.holds
  exact ⟨e, y, first, here⟩

/-- A list of checks fails as the first one that fails. -/
theorem Except.forM_eq_error_iff {check : α → Except ε Unit} :
    xs.forM check = .error e ↔ FirstFailure check xs e := by
  induction xs with
  | nil => exact ⟨nofun, fun first => absurd first not_firstFailure_nil⟩
  | cons x xs ih =>
    show (check x >>= fun _ => xs.forM check) = .error e ↔ _
    rw [bind_eq_error, firstFailure_cons_iff, ih]
    constructor
    · rintro (failed | ⟨u, passed, later⟩)
      · exact .inl failed
      · exact .inr ⟨⟨u, passed⟩, later⟩
    · rintro (failed | ⟨⟨u, passed⟩, later⟩)
      · exact .inl failed
      · exact .inr ⟨u, passed, later⟩

/-! ## An entry added at the end -/

/-- An entry of a list to which one has been added is an old entry or the new one. -/
theorem concat_eq_append_cons_iff {before after : List α} {last : α} :
    xs ++ [last] = before ++ x :: after ↔
      (∃ rest, after = rest ++ [last] ∧ xs = before ++ x :: rest) ∨
        after = [] ∧ x = last ∧ before = xs := by
  constructor
  · intro whole
    rcases List.eq_nil_or_concat after with rfl | ⟨rest, other, rfl⟩
    · obtain ⟨same, new⟩ := List.append_inj' whole rfl
      exact .inr ⟨rfl, (List.singleton_inj.1 new).symm, same.symm⟩
    · rw [List.concat_eq_append, ← List.cons_append, ← List.append_assoc] at whole
      obtain ⟨same, new⟩ := List.append_inj' whole rfl
      exact .inl ⟨rest, by rw [List.concat_eq_append, new], same⟩
  · rintro (⟨rest, rfl, rfl⟩ | ⟨rfl, rfl, rfl⟩)
    · simp
    · rfl

/-! ## Repeated entries -/

variable [DecidableEq α]

/-- Induction along the first uses: all later uses of the first entry are dropped at once. -/
theorem firstUses_induction {motive : List α → Prop} (nil : motive [])
    (cons : ∀ x xs, motive (xs.filter fun y => !y == x) → motive (x :: xs)) (xs : List α) :
    motive xs := by
  match xs with
  | [] => exact nil
  | x :: xs => exact cons x xs (firstUses_induction nil cons _)
  termination_by xs.length
  decreasing_by exact Nat.lt_succ_of_le (List.length_filter_le _ _)

/-- The entries of a list in the order of their first use, each of them once. -/
structure ListsFirstUses (uses entries : List α) : Prop where
  distinct : entries.Nodup
  same : ∀ x, x ∈ entries ↔ x ∈ uses
  ordered : entries.Pairwise fun x y => uses.idxOf x < uses.idxOf y

/-- Leaving entries out does not change which of two others comes first. -/
theorem idxOf_lt_of_filter {p : α → Bool} (here : p x = true) (there : p y = true)
    (less : (xs.filter p).idxOf x < (xs.filter p).idxOf y) : xs.idxOf x < xs.idxOf y := by
  induction xs with
  | nil => exact less
  | cons z xs ih =>
    by_cases kept : p z
    · rw [List.filter_cons_of_pos kept] at less
      by_cases second : z = y
      · simp [second] at less
      rw [List.idxOf_cons_ne _ second] at less ⊢
      by_cases first : z = x
      · rw [first, List.idxOf_cons_self]
        exact Nat.succ_pos _
      · rw [List.idxOf_cons_ne _ first] at less ⊢
        exact Nat.succ_lt_succ (ih (Nat.lt_of_succ_lt_succ less))
    · have notFirst : z ≠ x := fun same => kept (same ▸ here)
      have notSecond : z ≠ y := fun same => kept (same ▸ there)
      rw [List.filter_cons_of_neg kept] at less
      rw [List.idxOf_cons_ne _ notFirst, List.idxOf_cons_ne _ notSecond]
      exact Nat.succ_lt_succ (ih less)

theorem pairwise_eraseDups (uses : List α) :
    uses.eraseDups.Pairwise fun x y => uses.idxOf x < uses.idxOf y := by
  induction uses using firstUses_induction with
  | nil => exact .nil
  | cons x xs ih =>
    have other {y : α} (member : y ∈ (xs.filter fun y => !y == x).eraseDups) : y ≠ x := by
      have kept := (List.mem_filter.1 (List.mem_eraseDups.1 member)).2
      simpa using kept
    rw [List.eraseDups_cons]
    refine .cons (fun y member => ?_) (ih.imp_of_mem fun {y z} first second less => ?_)
    · rw [List.idxOf_cons_self, List.idxOf_cons_ne _ (other member).symm]
      exact Nat.succ_pos _
    · rw [List.idxOf_cons_ne _ (other first).symm, List.idxOf_cons_ne _ (other second).symm]
      refine Nat.succ_lt_succ (idxOf_lt_of_filter ?_ ?_ less)
      · simpa using other first
      · simpa using other second

/-- Dropping repeated entries leaves the first uses. -/
theorem listsFirstUses_eraseDups (uses : List α) : ListsFirstUses uses uses.eraseDups where
  same _ := List.mem_eraseDups
  ordered := pairwise_eraseDups uses
  distinct := by
    refine (pairwise_eraseDups uses).imp fun {x y} less same => ?_
    rw [same] at less
    exact Nat.lt_irrefl _ less

/-- Dropping repeated entries does not change the first one with a property. -/
theorem isFirstWith_eraseDups_iff :
    IsFirstWith P xs.eraseDups x ↔ IsFirstWith P xs x := by
  induction xs using firstUses_induction with
  | nil => rfl
  | cons y xs ih =>
    rw [List.eraseDups_cons, isFirstWith_cons_iff, isFirstWith_cons_iff, ih]
    by_cases here : P y
    · simp [here]
    · have kept (z : α) (_ : z ∈ xs) (property : P z) : (!z == y) = true := by
        have ne : z ≠ y := fun same => here (same ▸ property)
        simpa using ne
      rw [isFirstWith_filter_iff kept]

end HookGraft

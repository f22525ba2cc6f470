/-!
# Sequences of steps that may fail

Going through a list with a step that may fail yields a result for each entry, or the failure of
one of them.

## Main results

* `Except.exists_of_mapM`: what holds if every step succeeds
* `Except.mapM_eq_ok_iff`: when steps that can be undone succeed
* `Except.exists_error_of_mapM`: where a failure comes from
* `Except.forM_eq_ok`: a list of checks is passed if each check is
-/

namespace HookGraft.Except

variable {α β ε : Type} {x : Except ε α} {f : α → Except ε β} {xs : List α} {ys : List β} {b : β}
  {e : ε}

theorem ok_bind {a : α} : (Except.ok a >>= f) = f a := rfl

theorem bind_eq_ok : (x >>= f) = .ok b ↔ ∃ a, x = .ok a ∧ f a = .ok b := by
  cases x with
  | error e => simp [bind, Except.bind]
  | ok a => simp [bind, Except.bind]

theorem bind_eq_error :
    (x >>= f) = .error e ↔ x = .error e ∨ ∃ a, x = .ok a ∧ f a = .error e := by
  cases x with
  | error e => simp [bind, Except.bind]
  | ok a => simp [bind, Except.bind]

theorem map_eq_error {f : α → β} : x.map f = .error e ↔ x = .error e := by
  cases x with
  | error e => exact ⟨fun h => congrArg _ (Except.error.inj h), fun h => h ▸ rfl⟩
  | ok a => exact ⟨nofun, nofun⟩

/-- A check that ends the computation if a condition is met. -/
theorem check_eq_ok {c : Prop} [Decidable c] {y : Except ε β} :
    (if c then (Except.error e : Except ε α) >>= fun _ => y else y) = .ok b ↔
      ¬ c ∧ y = .ok b := by
  by_cases h : c
  · rw [if_pos h]
    exact ⟨fun failed => by contradiction, fun h' => absurd h h'.1⟩
  · rw [if_neg h]
    exact ⟨fun done => ⟨h, done⟩, fun h' => h'.2⟩

theorem mapM_cons_ok {x : α} (h : (x :: xs).mapM f = .ok ys) :
    ∃ y rest, f x = .ok y ∧ xs.mapM f = .ok rest ∧ ys = y :: rest := by
  rw [List.mapM_cons] at h
  obtain ⟨y, first, h⟩ := bind_eq_ok.1 h
  obtain ⟨rest, others, h⟩ := bind_eq_ok.1 h
  exact ⟨y, rest, first, others, (Except.ok.inj h).symm⟩

/-- Steps that agree on the entries yield the same. -/
theorem mapM_congr {g : α → Except ε β} (same : ∀ x ∈ xs, f x = g x) : xs.mapM f = xs.mapM g := by
  induction xs with
  | nil => rfl
  | cons x xs ih =>
    obtain ⟨here, later⟩ := List.forall_mem_cons.1 same
    rw [List.mapM_cons, List.mapM_cons, here, ih later]

/-- If every step succeeds, the step for each entry does. -/
theorem exists_of_mapM (h : xs.mapM f = .ok ys) {x : α} (member : x ∈ xs) : ∃ y, f x = .ok y := by
  induction xs generalizing ys with
  | nil => contradiction
  | cons first xs ih =>
    obtain ⟨y, rest, here, others, rfl⟩ := mapM_cons_ok h
    rcases List.mem_cons.1 member with rfl | inside
    · exact ⟨y, here⟩
    · exact ih others inside

/-- If the entry for a result can be told from it, and which results there are, then the entries are
those for the results. -/
theorem mapM_eq_ok_iff {P : β → Prop} {g : β → α} (step : ∀ x y, f x = .ok y ↔ P y ∧ x = g y) :
    xs.mapM f = .ok ys ↔ (∀ y ∈ ys, P y) ∧ xs = ys.map g := by
  induction xs generalizing ys with
  | nil =>
    constructor
    · intro h
      obtain rfl : [] = ys := Except.ok.inj h
      exact ⟨nofun, rfl⟩
    · rintro ⟨-, none⟩
      obtain rfl := List.map_eq_nil_iff.1 none.symm
      rfl
  | cons x xs ih =>
    constructor
    · intro h
      obtain ⟨y, rest, here, others, rfl⟩ := mapM_cons_ok h
      obtain ⟨proper, rfl⟩ := (step x y).1 here
      obtain ⟨later, rfl⟩ := ih.1 others
      exact ⟨List.forall_mem_cons.2 ⟨proper, later⟩, rfl⟩
    · rintro ⟨proper, entries⟩
      obtain ⟨y, rest, rfl, rfl, rfl⟩ := List.map_eq_cons_iff.1 entries.symm
      obtain ⟨here, later⟩ := List.forall_mem_cons.1 proper
      rw [List.mapM_cons]
      refine bind_eq_ok.2 ⟨y, (step _ _).2 ⟨here, rfl⟩, ?_⟩
      exact bind_eq_ok.2 ⟨rest, ih.2 ⟨later, rfl⟩, rfl⟩

/-- The first step fails, or it succeeds and the others fail. -/
theorem mapM_cons_eq_error_iff {x : α} : (x :: xs).mapM f = .error e ↔
    f x = .error e ∨ (∃ y, f x = .ok y) ∧ xs.mapM f = .error e := by
  rw [List.mapM_cons, bind_eq_error]
  constructor
  · rintro (here | ⟨y, first, h⟩)
    · exact .inl here
    · rcases bind_eq_error.1 h with others | ⟨rest, -, ⟨⟩⟩
      exact .inr ⟨⟨y, first⟩, others⟩
  · rintro (here | ⟨⟨y, first⟩, others⟩)
    · exact .inl here
    · exact .inr ⟨y, first, bind_eq_error.2 (.inl others)⟩

/-- A failure is that of the step for one of the entries. -/
theorem exists_error_of_mapM (h : xs.mapM f = .error e) : ∃ x ∈ xs, f x = .error e := by
  induction xs with
  | nil => contradiction
  | cons x xs ih =>
    rcases mapM_cons_eq_error_iff.1 h with here | ⟨-, others⟩
    · exact ⟨x, List.mem_cons_self, here⟩
    · obtain ⟨x', member, failed⟩ := ih others
      exact ⟨x', List.mem_cons_of_mem x member, failed⟩

/-- A list of checks is passed if each check is. -/
theorem forM_eq_ok {check : α → Except ε Unit} :
    xs.forM check = .ok () ↔ ∀ x ∈ xs, check x = .ok () := by
  induction xs with
  | nil => exact ⟨fun _ => nofun, fun _ => rfl⟩
  | cons x xs ih =>
    show (check x >>= fun _ => xs.forM check) = .ok () ↔ _
    rw [bind_eq_ok, List.forall_mem_cons, ← ih]
    constructor
    · rintro ⟨⟨⟩, here, others⟩
      exact ⟨here, others⟩
    · rintro ⟨here, others⟩
      exact ⟨(), here, others⟩

end HookGraft.Except

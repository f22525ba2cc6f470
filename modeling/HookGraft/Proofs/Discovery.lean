import HookGraft.Rule.Basic

/-!
# Specifications of discoveries

A specification says what holds when a computation succeeds and what holds when it fails, each of
the bindings that it leaves. The specification of a sequence follows from those of its steps.

## Main definitions

* `Discovery.Meets`: a computation, run on bindings, meets a specification

## Main results

* `Discovery.Meets.andThen`: the rule for sequences
* `Discovery.Meets.lift`: the rule for steps that bind nothing
* `Discovery.Meets.mapM`: the rule for going through a list
-/

namespace HookGraft.Discovery

variable {α β : Type} {b : Bindings}

/-! ## Running the steps of a computation -/

section On

@[simp] theorem on_pure (a : α) : (pure a : Discovery α).on b = (.ok a, b) := rfl

@[simp] theorem on_get : (get : Discovery Bindings).on b = (.ok b, b) := rfl

@[simp] theorem on_bind_name (name : String) (value : Text) :
    (Discovery.bind name value).on b = (.ok (), b.bind name value) := rfl

@[simp] theorem on_throw (e : PatchError) : (throw e : Discovery α).on b = (.error e, b) := rfl

@[simp] theorem on_lift (x : Except PatchError α) : (liftM x : Discovery α).on b = (x, b) := rfl

theorem on_andThen (d : Discovery α) (f : α → Discovery β) :
    (d >>= f).on b = match d.on b with
      | (.ok a, b') => (f a).on b'
      | (.error e, b') => (.error e, b') := by
  show (ExceptT.bindCont f (d.on b).1).run (d.on b).2 = _
  rcases d.on b with ⟨_ | _, b'⟩
  · rfl
  · rfl

/-- Looking at the bindings first. -/
theorem on_get_andThen {f : Bindings → Discovery β} : (get >>= f).on b = (f b).on b := rfl

/-- Binding a name first. -/
theorem on_bind_name_andThen {name : String} {value : Text} {f : Unit → Discovery β} :
    (Discovery.bind name value >>= f).on b = (f ()).on (b.bind name value) := rfl

/-- A step that binds nothing and has a result, and what follows. -/
theorem on_ok_andThen {a : α} {f : α → Discovery β} :
    (liftM (.ok a : Except PatchError α) >>= f).on b = (f a).on b := rfl

/-- Nothing follows a step that fails. -/
theorem on_error_andThen {e : PatchError} {f : α → Discovery β} :
    (liftM (.error e : Except PatchError α) >>= f).on b = (.error e, b) := rfl

/-- A sequence succeeds if both of its parts do. -/
theorem on_andThen_eq_ok {d : Discovery α} {f : α → Discovery β} {c : β} {b'' : Bindings} :
    (d >>= f).on b = (.ok c, b'') ↔
      ∃ a b', d.on b = (.ok a, b') ∧ (f a).on b' = (.ok c, b'') := by
  rw [on_andThen]
  constructor
  · intro done
    split at done
    · exact ⟨_, _, ‹_›, done⟩
    · simp at done
  · rintro ⟨a, b', first, done⟩
    rw [first]
    exact done

/-- A step that binds nothing, and what follows if it succeeds. -/
theorem on_lift_andThen_eq_ok {x : Except PatchError α} {f : α → Discovery β} {c : β}
    {b' : Bindings} : (liftM x >>= f).on b = (.ok c, b') ↔
      ∃ a, x = .ok a ∧ (f a).on b = (.ok c, b') := by
  rw [on_andThen_eq_ok]
  constructor
  · rintro ⟨a, _, ⟨⟩, done⟩
    exact ⟨a, rfl, done⟩
  · rintro ⟨a, rfl, done⟩
    exact ⟨a, b, rfl, done⟩

/-- A check that may end the computation, and what follows if it does not. -/
theorem on_check_eq_ok {p : Prop} [Decidable p] {e : PatchError} {f : PUnit → Discovery β} {c : β}
    {b' : Bindings} : (if p then throw e >>= f else f ⟨⟩).on b = (.ok c, b') ↔
      ¬ p ∧ (f ⟨⟩).on b = (.ok c, b') := by
  by_cases met : p
  · rw [if_pos met, on_andThen]
    exact ⟨nofun, fun done => absurd met done.1⟩
  · rw [if_neg met]
    exact ⟨fun done => ⟨met, done⟩, And.right⟩

end On

/-- A computation, run on bindings, meets a specification: what holds of its result and of the
bindings it leaves if it succeeds, and what holds of its failure and of the bindings if it fails. -/
structure Meets (d : Discovery α) (b : Bindings) (success : α → Bindings → Prop)
    (failure : PatchError → Bindings → Prop) : Prop where
  success : ∀ a b', d.on b = (.ok a, b') → success a b'
  failure : ∀ e b', d.on b = (.error e, b') → failure e b'

namespace Meets

variable {d : Discovery α} {f : α → Discovery β} {P P' : α → Bindings → Prop}
  {Q : β → Bindings → Prop} {E E' : PatchError → Bindings → Prop}

/-- Less may be said of the result and of the failure. -/
theorem mono (h : Meets d b P E) (weaker : ∀ a b', P a b' → P' a b')
    (weakerE : ∀ e b', E e b' → E' e b') : Meets d b P' E' where
  success a b' run := weaker a b' (h.success a b' run)
  failure e b' run := weakerE e b' (h.failure e b' run)

theorem pure {a : α} (h : P a b) : Meets (Pure.pure a) b P E where
  success a' b' run := by
    obtain ⟨rfl, rfl⟩ : a = a' ∧ b = b' := by simpa using run
    exact h
  failure e b' run := by simp at run

theorem throw {e : PatchError} (h : E e b) : Meets (MonadExcept.throw e) b P E where
  success a b' run := by simp at run
  failure e' b' run := by
    obtain ⟨rfl, rfl⟩ : e = e' ∧ b = b' := by simpa using run
    exact h

/-- One computation and then another. -/
theorem andThen (h : Meets d b P E) (h' : ∀ a b', P a b' → Meets (f a) b' Q E) :
    Meets (d >>= f) b Q E where
  success c b'' run := by
    rw [on_andThen] at run
    split at run
    · rename_i a b' first
      exact (h' a b' (h.success a b' first)).success c b'' run
    · simp at run
  failure e b'' run := by
    rw [on_andThen] at run
    split at run
    · rename_i a b' first
      exact (h' a b' (h.success a b' first)).failure e b'' run
    · rename_i e' b' failed
      obtain ⟨rfl, rfl⟩ : e' = e ∧ b' = b'' := by simpa using run
      exact h.failure e' b' failed

/-- Looking at the bindings. -/
theorem get {f : Bindings → Discovery β} (h : Meets (f b) b Q E) :
    Meets (MonadState.get >>= f) b Q E := by
  refine andThen (P := fun a b' => a = b ∧ b' = b) ⟨?_, ?_⟩ ?_
  · intro a b' run
    obtain ⟨rfl, rfl⟩ : b = a ∧ b = b' := by simpa using run
    exact ⟨rfl, rfl⟩
  · intro e b' run
    simp at run
  · rintro a b' ⟨rfl, rfl⟩
    exact h

/-- Binding a name. -/
theorem bind {name : String} {value : Text} {f : Unit → Discovery β}
    (h : Meets (f ()) (b.bind name value) Q E) :
    Meets (Discovery.bind name value >>= f) b Q E := by
  refine andThen (P := fun _ b' => b' = b.bind name value) ⟨?_, ?_⟩ ?_
  · intro a b' run
    have := (Prod.ext_iff.1 run).2
    exact this.symm
  · intro e b' run
    simp at run
  · rintro a b' rfl
    exact h

/-- A step that binds nothing. -/
theorem lift {x : Except PatchError α} (ok : ∀ a, x = .ok a → Meets (f a) b Q E)
    (error : ∀ e, x = .error e → E e b) : Meets (liftM x >>= f) b Q E := by
  refine andThen (P := fun a b' => x = .ok a ∧ b' = b) ⟨?_, ?_⟩ ?_
  · intro a b' run
    obtain ⟨rfl, rfl⟩ : x = .ok a ∧ b = b' := by simpa using run
    exact ⟨rfl, rfl⟩
  · intro e b' run
    obtain ⟨failed, rfl⟩ : x = .error e ∧ b = b' := by simpa using run
    exact error e failed
  · rintro a b' ⟨done, rfl⟩
    exact ok a done

/-- A check that may end the computation. -/
theorem check {c : Prop} [Decidable c] {e : PatchError} {f : PUnit → Discovery β}
    (failed : c → E e b) (h : Meets (f ⟨⟩) b Q E) :
    Meets (if c then MonadExcept.throw e >>= f else f ⟨⟩) b Q E := by
  split
  · rename_i met
    exact andThen (throw (P := fun _ _ => False) (failed met)) fun _ _ never => never.elim
  · exact h

/-- A step that binds nothing and succeeds. -/
theorem lift_ok {x : Except PatchError α} {a : α} (done : x = .ok a) (h : Meets (f a) b Q E) :
    Meets (liftM x >>= f) b Q E := by
  subst done
  exact lift (fun a' eq => Except.ok.inj eq ▸ h) fun e eq => by contradiction

/-- A step that binds nothing and fails. -/
theorem lift_error {x : Except PatchError α} {e : PatchError} (failed : x = .error e) (h : E e b) :
    Meets (liftM x >>= f) b Q E := by
  subst failed
  exact lift (fun a eq => by contradiction) fun e' eq => Except.error.inj eq ▸ h

/-- A last step that binds nothing. -/
theorem last {x : Except PatchError α} (ok : ∀ a, x = .ok a → P a b)
    (error : ∀ e, x = .error e → E e b) : Meets (liftM x) b P E where
  success a b' run := by
    obtain ⟨done, rfl⟩ : x = .ok a ∧ b = b' := by simpa using run
    exact ok a done
  failure e b' run := by
    obtain ⟨failed, rfl⟩ : x = .error e ∧ b = b' := by simpa using run
    exact error e failed

/-- The same step for each entry of a list, by an invariant that speaks of the entries done. -/
theorem mapM {γ : Type} {xs : List γ} {f : γ → Discovery α} {I : List γ → Bindings → Prop}
    (done : List γ) (h : I done b)
    (step : ∀ done, ∀ x ∈ xs, ∀ b', I done b' →
      Meets (f x) b' (fun _ b'' => I (done ++ [x]) b'') E) :
    Meets (xs.mapM f) b (fun _ b' => I (done ++ xs) b') E := by
  induction xs generalizing b done with
  | nil =>
    rw [List.mapM_nil, List.append_nil]
    exact .pure h
  | cons x xs ih =>
    rw [List.mapM_cons]
    have others := fun done y member => step done y (List.mem_cons_of_mem x member)
    refine (step done x List.mem_cons_self b h).andThen fun a b' here => ?_
    refine (ih _ here others).andThen fun as b'' rest => .pure ?_
    rwa [List.append_assoc] at rest

end Meets

end HookGraft.Discovery

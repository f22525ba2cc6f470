import HookGraft.Proofs.Discovery
import Mathlib.Data.List.Forall2

/-!
# Two runs of a discovery

Two runs that fail do so alike if they fail with the same error; two runs that succeed, if their
results and the bindings that they leave correspond. That the runs of two sequences are alike follows
from their steps.

## Main definitions

* `Except.Alike`: two results that are the same failure, or that correspond
* `Discovery.Alike`: two runs that fail alike or leave what corresponds

## Main results

* `Discovery.Alike.andThen`: the rule for sequences
* `Discovery.Alike.lift`: the rule for steps that bind nothing
* `Discovery.Alike.mapM`: the rule for going through one list
-/

namespace HookGraft

/-! ## Two results -/

namespace Except

variable {ε α α' β β' : Type} {R : α → α' → Prop} {S : β → β' → Prop}

/-- Two results that are the same failure, or that correspond. -/
inductive Alike (R : α → α' → Prop) : Except ε α → Except ε α' → Prop where
  | ok {a : α} {a' : α'} : R a a' → Alike R (.ok a) (.ok a')
  | error (e : ε) : Alike R (.error e) (.error e)

namespace Alike

variable {x : Except ε α} {x' : Except ε α'} {f : α → Except ε β} {f' : α' → Except ε β'}

theorem refl (x : Except ε α) : Alike Eq x x := by
  cases x with
  | ok a => exact .ok rfl
  | error e => exact .error e

theorem mono {R' : α → α' → Prop} (h : Alike R x x') (weaker : ∀ a a', R a a' → R' a a') :
    Alike R' x x' := by
  cases h with
  | ok related => exact .ok (weaker _ _ related)
  | error e => exact .error e

/-- Of two results that correspond it is known what they are results of. -/
theorem results (h : Alike R x x') :
    Alike (fun a a' => R a a' ∧ x = .ok a ∧ x' = .ok a') x x' := by
  cases h with
  | ok related => exact .ok ⟨related, rfl, rfl⟩
  | error e => exact .error e

/-- One step and then another. -/
theorem andThen (h : Alike R x x') (next : ∀ a a', R a a' → Alike S (f a) (f' a')) :
    Alike S (x >>= f) (x' >>= f') := by
  cases h with
  | ok related => exact next _ _ related
  | error e => exact .error e

/-- A function of each result. -/
theorem map {f : α → β} {f' : α' → β'} (h : Alike R x x')
    (related : ∀ a a', R a a' → S (f a) (f' a')) : Alike S (x.map f) (x'.map f') := by
  cases h with
  | ok here => exact .ok (related _ _ here)
  | error e => exact .error e

/-- The same list, with two steps for each entry. -/
theorem mapM {γ : Type} {xs : List γ} {f : γ → Except ε α} {f' : γ → Except ε α'}
    (step : ∀ x ∈ xs, Alike R (f x) (f' x)) :
    Alike (List.Forall₂ R) (xs.mapM f) (xs.mapM f') := by
  induction xs with
  | nil => exact .ok .nil
  | cons x xs ih =>
    obtain ⟨first, others⟩ := List.forall_mem_cons.1 step
    rw [List.mapM_cons, List.mapM_cons]
    refine first.andThen fun a a' here => ?_
    exact (ih others).andThen fun as as' rest => .ok (.cons here rest)

end Alike

end Except

/-! ## Two computations -/

namespace Discovery

variable {α α' β β' : Type} {b b' : Bindings}

/-- Two computations, each run on bindings, that fail alike, or succeed with results and bindings
that correspond. -/
inductive Alike (d : Discovery α) (b : Bindings) (d' : Discovery α') (b' : Bindings)
    (R : α → Bindings → α' → Bindings → Prop) : Prop where
  | succeed {a : α} {c : Bindings} {a' : α'} {c' : Bindings} :
      d.on b = (.ok a, c) → d'.on b' = (.ok a', c') → R a c a' c' → Alike d b d' b' R
  | fail {e : PatchError} {c c' : Bindings} :
      d.on b = (.error e, c) → d'.on b' = (.error e, c') → Alike d b d' b' R

namespace Alike

variable {d : Discovery α} {d' : Discovery α'} {f : α → Discovery β} {f' : α' → Discovery β'}
  {R : α → Bindings → α' → Bindings → Prop} {S : β → Bindings → β' → Bindings → Prop}

/-- Less may be said of the results. -/
theorem mono {R' : α → Bindings → α' → Bindings → Prop} (h : Alike d b d' b' R)
    (weaker : ∀ a c a' c', R a c a' c' → R' a c a' c') : Alike d b d' b' R' := by
  cases h with
  | succeed run run' related => exact .succeed run run' (weaker _ _ _ _ related)
  | fail run run' => exact .fail run run'

theorem pure {a : α} {a' : α'} (h : R a b a' b') :
    Alike (Pure.pure a) b (Pure.pure a') b' R :=
  .succeed rfl rfl h

/-- One computation and then another. -/
theorem andThen (h : Alike d b d' b' R)
    (next : ∀ a c a' c', R a c a' c' → Alike (f a) c (f' a') c' S) :
    Alike (d >>= f) b (d' >>= f') b' S := by
  cases h with
  | @succeed a c a' c' first first' related =>
    have run : (d >>= f).on b = (f a).on c := by rw [on_andThen, first]
    have run' : (d' >>= f').on b' = (f' a').on c' := by rw [on_andThen, first']
    cases next a c a' c' related with
    | succeed second second' last => exact .succeed (run.trans second) (run'.trans second') last
    | fail second second' => exact .fail (run.trans second) (run'.trans second')
  | @fail e c c' failed failed' =>
    have run : (d >>= f).on b = (.error e, c) := by rw [on_andThen, failed]
    have run' : (d' >>= f').on b' = (.error e, c') := by rw [on_andThen, failed']
    exact .fail run run'

/-- Looking at the bindings. -/
theorem get {f : Bindings → Discovery β} {f' : Bindings → Discovery β'}
    (h : Alike (f b) b (f' b') b' S) :
    Alike (MonadState.get >>= f) b (MonadState.get >>= f') b' S := by
  refine andThen (R := fun a c a' c' => a = b ∧ c = b ∧ a' = b' ∧ c' = b')
    (.succeed rfl rfl ⟨rfl, rfl, rfl, rfl⟩) ?_
  rintro _ _ _ _ ⟨rfl, rfl, rfl, rfl⟩
  exact h

/-- Binding a name. -/
theorem bind {name name' : String} {value value' : Text} {f : Unit → Discovery β}
    {f' : Unit → Discovery β'}
    (h : Alike (f ()) (b.bind name value) (f' ()) (b'.bind name' value') S) :
    Alike (Discovery.bind name value >>= f) b (Discovery.bind name' value' >>= f') b' S := by
  refine andThen (R := fun _ c _ c' => c = b.bind name value ∧ c' = b'.bind name' value')
    (.succeed rfl rfl ⟨rfl, rfl⟩) ?_
  rintro _ _ _ _ ⟨rfl, rfl⟩
  exact h

/-- A last step that binds nothing. -/
theorem last {Q : α → α' → Prop} {x : Except PatchError α} {x' : Except PatchError α'}
    (h : Except.Alike Q x x') (related : ∀ a a', Q a a' → R a b a' b') :
    Alike (liftM x) b (liftM x') b' R := by
  cases h with
  | ok here => exact .succeed rfl rfl (related _ _ here)
  | error e => exact .fail rfl rfl

/-- A step that binds nothing. -/
theorem lift {Q : α → α' → Prop} {x : Except PatchError α} {x' : Except PatchError α'}
    (h : Except.Alike Q x x') (next : ∀ a a', Q a a' → Alike (f a) b (f' a') b' S) :
    Alike (liftM x >>= f) b (liftM x' >>= f') b' S := by
  cases h with
  | @ok a a' here =>
    refine andThen (R := fun c b₁ c' b₁' => c = a ∧ b₁ = b ∧ c' = a' ∧ b₁' = b')
      (.succeed rfl rfl ⟨rfl, rfl, rfl, rfl⟩) ?_
    rintro _ _ _ _ ⟨rfl, rfl, rfl, rfl⟩
    exact next _ _ here
  | error e => exact .fail rfl rfl

/-- A check that may end both computations. -/
theorem check {c c' : Prop} [Decidable c] [Decidable c'] {e e' : PatchError}
    {f : PUnit → Discovery β} {f' : PUnit → Discovery β'} (same : c ↔ c') (sameError : e = e')
    (h : Alike (f ⟨⟩) b (f' ⟨⟩) b' S) :
    Alike (if c then throw e >>= f else f ⟨⟩) b (if c' then throw e' >>= f' else f' ⟨⟩) b' S := by
  subst sameError
  by_cases met : c
  · rw [if_pos met, if_pos (same.1 met)]
    exact .fail rfl rfl
  · rw [if_neg met, if_neg (mt same.2 met)]
    exact h

/-- One list, with two steps for each entry, by a relation between the bindings. -/
theorem mapM {γ : Type} {xs : List γ} {f : γ → Discovery α} {f' : γ → Discovery α'}
    {Q : α → α' → Prop} {I : Bindings → Bindings → Prop} (h : I b b')
    (step : ∀ x ∈ xs, ∀ b b', I b b' →
      Alike (f x) b (f' x) b' fun a c a' c' => Q a a' ∧ I c c') :
    Alike (xs.mapM f) b (xs.mapM f') b' fun as c as' c' => List.Forall₂ Q as as' ∧ I c c' := by
  induction xs generalizing b b' with
  | nil => exact .pure ⟨.nil, h⟩
  | cons x xs ih =>
    obtain ⟨first, others⟩ := List.forall_mem_cons.1 step
    rw [List.mapM_cons, List.mapM_cons]
    refine (first b b' h).andThen fun a c a' c' ⟨here, kept⟩ => ?_
    refine (ih kept others).andThen fun as c as' c' ⟨rest, kept⟩ => ?_
    exact .pure ⟨.cons here rest, kept⟩

end Alike

end Discovery

end HookGraft

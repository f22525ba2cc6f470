import HookGraft.Proofs.Regex.Reading

/-!
# Runs of an automaton

A run follows the steps of an automaton from a thread to the end. Each part of the automaton that
it goes through has read what the term for that part reads.

## Main definitions

* `Automaton.Run`: the threads on the way to the end, by their number
* `Automaton.Holds`: the steps of an automaton from one of them on
* `Automaton.Passage`: a part of an automaton that is left at one step only, having read something

## Main results

* `Regex.passage`: the steps of a term read what the term reads
* `Regex.reads_of_run`: a run from the first step has read what the term reads
-/

namespace HookGraft

namespace Automaton

variable {a : Automaton} {n index : Nat} {t final : Thread}

/-- The last thread of a run, which comes to the end in so many steps. -/
inductive Run (a : Automaton) : Nat → Thread → Thread → Prop where
  | stop {t : Thread} : t.step = a.steps.size → Run a 0 t t
  | step {n : Nat} {t u final : Thread} : u ∈ a.onward t → Run a n u final → Run a (n + 1) t final

/-- From the step with the number `index` on, an automaton has these steps. -/
def Holds (a : Automaton) (index : Nat) (steps : List Step) : Prop :=
  ∀ i s, steps[i]? = some s → a.steps[index + i]? = some s

namespace Holds

variable {xs ys : List Step} {s : Step}

theorem left (h : a.Holds index (xs ++ ys)) : a.Holds index xs := fun i s hs =>
  h i s (by rw [List.getElem?_append_left (List.getElem?_eq_some_iff.1 hs).1, hs])

theorem right (h : a.Holds index (xs ++ ys)) : a.Holds (index + xs.length) ys := fun i s hs => by
  rw [Nat.add_assoc]
  exact h (xs.length + i) s (by rw [List.getElem?_append_right (Nat.le_add_right _ _),
    Nat.add_sub_cancel_left, hs])

theorem head (h : a.Holds index (s :: xs)) : a.steps[index]? = some s := h 0 s rfl

theorem tail (h : a.Holds index (s :: xs)) : a.Holds (index + 1) xs := fun i u hu => by
  rw [Nat.add_assoc, Nat.add_comm 1]
  exact h (i + 1) u hu

end Holds

/-- Only from a step of the automaton is there a way on. -/
theorem lt_of_onward {u : Thread} (h : u ∈ a.onward t) : t.step < a.steps.size := by
  refine Nat.lt_of_not_le fun out => ?_
  have none : a.steps[t.step]? = none := Array.getElem?_eq_none out
  simp [onward, none] at h

/-- No thread goes back. -/
theorem offset_le_of_onward {u : Thread} (h : u ∈ a.onward t) : t.place.offset ≤ u.place.offset := by
  simp only [onward] at h
  split at h
  · contradiction
  · split at h
    · contradiction
    · split at h
      · obtain rfl := List.mem_singleton.1 h
        exact Nat.le_add_right _ _
      · contradiction
  · split at h
    · obtain rfl := List.mem_singleton.1 h
      exact Nat.le_refl _
    · contradiction
  · obtain rfl := List.mem_singleton.1 h
    exact Nat.le_refl _
  · obtain rfl := List.mem_singleton.1 h
    exact Nat.le_refl _
  · rcases List.mem_cons.1 h with rfl | other
    · exact Nat.le_refl _
    · obtain rfl := List.mem_singleton.1 other
      exact Nat.le_refl _

namespace Run

/-- A run does not end at a step of the automaton. -/
theorem onward {s : Step} (run : a.Run n t final) (here : a.steps[t.step]? = some s) :
    ∃ m u, n = m + 1 ∧ u ∈ a.onward t ∧ a.Run m u final := by
  cases run with
  | stop ends =>
    have := (Array.getElem?_eq_some_iff.1 here).1
    omega
  | step next rest => exact ⟨_, _, rfl, next, rest⟩

theorem read {k : CharClass} (run : a.Run n t final)
    (here : a.steps[t.step]? = some (.read k)) :
    ∃ m c q, n = m + 1 ∧ k.contains c = true ∧ t.place.Passes [c] q ∧
      a.Run m { t with step := t.step + 1, place := q } final := by
  obtain ⟨m, u, rfl, next, rest⟩ := run.onward here
  simp only [Automaton.onward, here] at next
  split at next
  · contradiction
  · rename_i c behind text
    split at next
    · rename_i member
      obtain rfl := List.mem_singleton.1 next
      exact ⟨m, c, _, rfl, member, .single text, rest⟩
    · contradiction

theorem check {l : Look} (run : a.Run n t final) (here : a.steps[t.step]? = some (.check l)) :
    ∃ m, n = m + 1 ∧ l.holds t.place = true ∧ a.Run m { t with step := t.step + 1 } final := by
  obtain ⟨m, u, rfl, next, rest⟩ := run.onward here
  simp only [Automaton.onward, here] at next
  split at next
  · rename_i holds
    obtain rfl := List.mem_singleton.1 next
    exact ⟨m, rfl, holds, rest⟩
  · contradiction

theorem mark {group : Nat} {side : Side} (run : a.Run n t final)
    (here : a.steps[t.step]? = some (.mark group side)) :
    ∃ m, n = m + 1 ∧ a.Run m
      { t with step := t.step + 1, marks := ((group, side), t.place) :: t.marks } final := by
  obtain ⟨m, u, rfl, next, rest⟩ := run.onward here
  simp only [Automaton.onward, here, List.mem_singleton] at next
  subst next
  exact ⟨m, rfl, rest⟩

theorem jump {target : Nat} (run : a.Run n t final)
    (here : a.steps[t.step]? = some (.jump target)) :
    ∃ m, n = m + 1 ∧ a.Run m { t with step := target } final := by
  obtain ⟨m, u, rfl, next, rest⟩ := run.onward here
  simp only [Automaton.onward, here, List.mem_singleton] at next
  subst next
  exact ⟨m, rfl, rest⟩

theorem fork {first second : Nat} (run : a.Run n t final)
    (here : a.steps[t.step]? = some (.fork first second)) :
    ∃ m, n = m + 1 ∧
      (a.Run m { t with step := first } final ∨ a.Run m { t with step := second } final) := by
  obtain ⟨m, u, rfl, next, rest⟩ := run.onward here
  simp only [Automaton.onward, here, List.mem_cons, List.not_mem_nil, or_false] at next
  rcases next with rfl | rfl
  · exact ⟨m, rfl, .inl rest⟩
  · exact ⟨m, rfl, .inr rest⟩

/-- The choice between another round of a repetition and the end of it. -/
theorem loop {greedy : Bool} {again exit : Nat} (run : a.Run n t final)
    (here : a.steps[t.step]? = some (.loop greedy again exit)) :
    ∃ m, n = m + 1 ∧
      (a.Run m { t with step := again } final ∨ a.Run m { t with step := exit } final) := by
  cases greedy with
  | true => exact run.fork here
  | false =>
    obtain ⟨m, rfl, rest⟩ := run.fork here
    exact ⟨m, rfl, rest.symm⟩

end Run

/-! ## Parts of an automaton -/

/-- A run from a thread goes through the step `stop`, having read something on the way there. -/
def Through (a : Automaton) (stop : Nat) (R : Reading) (n : Nat) (t final : Thread) : Prop :=
  ∃ m mid marks, m ≤ n ∧ a.Run m mid final ∧ mid.step = stop ∧
    mid.marks = marks ++ t.marks ∧ R t.place marks mid.place

/-- A run that enters a part at the step `index` goes through the step `stop`, having read the
part. -/
def Passage (a : Automaton) (index stop : Nat) (R : Reading) : Prop :=
  ∀ n t final, a.Run n t final → t.step = index → a.Through stop R n t final

section Through

variable {R S : Reading} {stop mid m : Nat}

theorem Through.mono (h : a.Through stop R n t final)
    (le : ∀ {p marks q}, R p marks q → S p marks q) : a.Through stop S n t final := by
  obtain ⟨m, u, marks, hm, rest, leaves, hmarks, way⟩ := h
  exact ⟨m, u, marks, hm, rest, leaves, hmarks, le way⟩

theorem Through.later (h : a.Through stop R m t final) (le : m ≤ n) :
    a.Through stop R n t final := by
  obtain ⟨m', u, marks, hm, rest⟩ := h
  exact ⟨m', u, marks, Nat.le_trans hm le, rest⟩

/-- What a run goes through does not depend on the step that it starts with. -/
theorem Through.of_step (h : a.Through stop R n { t with step := index } final) :
    a.Through stop R n t final := h

/-- A run that has come to the step `stop` without reading. -/
theorem Through.now (run : a.Run m { t with step := stop } final) (le : m ≤ n) :
    a.Through stop Reading.nothing n t final :=
  ⟨m, _, [], le, run, rfl, rfl, rfl, rfl⟩

theorem Through.andThen (h : a.Through mid R n t final)
    (h' : ∀ m u, m ≤ n → a.Run m u final → u.step = mid → a.Through stop S m u final) :
    a.Through stop (R.andThen S) n t final := by
  obtain ⟨m, u, first, hm, rest, leaves, hfirst, way⟩ := h
  obtain ⟨m', v, second, hm', rest', leaves', hsecond, way'⟩ := h' m u hm rest leaves
  refine ⟨m', v, second ++ first, Nat.le_trans hm' hm, rest', leaves', ?_, ?_⟩
  · rw [hsecond, hfirst, List.append_assoc]
  · exact ⟨u.place, first, second, way, way', rfl⟩

theorem Passage.nothing (a : Automaton) (index : Nat) :
    a.Passage index index Reading.nothing := fun n t _ run enters =>
  ⟨n, t, [], Nat.le_refl n, run, enters, rfl, rfl, rfl⟩

theorem Passage.andThen (h : a.Passage index mid R) (h' : a.Passage mid stop S) :
    a.Passage index stop (R.andThen S) := fun n t final run enters =>
  (h n t final run enters).andThen fun m u _ rest leaves => h' m u final rest leaves

end Through

end Automaton

/-! ## Repetitions -/

namespace Repetition

open Automaton

variable {a : Automaton} {steps : Nat → List Step} {size index exit : Nat} {greedy : Bool}
  {R : Reading}

section Parts

variable (length : ∀ i, (steps i).length = size)
  (part : ∀ i, a.Holds i (steps i) → a.Passage i (i + size) R)
include length part

theorem passage_exactly {n : Nat} (holds : a.Holds index (exactly steps size n index)) :
    a.Passage index (index + n * size) (R.times n) := by
  induction n generalizing index with
  | zero =>
    rw [Nat.zero_mul]
    exact Passage.nothing a index
  | succ n ih =>
    have rest := holds.right
    rw [length] at rest
    rw [show index + (n + 1) * size = index + size + n * size by rw [Nat.succ_mul]; omega]
    exact (part index holds.left).andThen (ih rest)

/-- What may be repeated `n` times has been repeated so often, or less. -/
theorem passage_atMost {n : Nat} (holds : a.Holds index (atMost steps size greedy exit n index))
    (last : index + n * (size + 1) = exit) :
    a.Passage index exit (fun p marks q => ∃ k ≤ n, R.times k p marks q) := by
  induction n generalizing index with
  | zero =>
    obtain rfl : index = exit := by simpa using last
    intro n t final run enters
    exact (Passage.nothing a index n t final run enters).mono fun way => ⟨0, Nat.le_refl 0, way⟩
  | succ n ih =>
    intro k t final run enters
    have choice : a.steps[t.step]? = some (.loop greedy (index + 1) exit) := by
      rw [enters]
      exact holds.head
    obtain ⟨m, rfl, again | leave⟩ := run.loop choice
    · have rest := holds.tail.right
      rw [length] at rest
      rw [Nat.succ_mul] at last
      have more := (part (index + 1) holds.tail.left).andThen (ih rest (by omega))
      refine ((more m _ final again rfl).of_step.later (Nat.le_succ m)).mono ?_
      rintro p marks q ⟨mid, first, second, round, ⟨j, hj, rounds⟩, rfl⟩
      exact ⟨j + 1, Nat.succ_le_succ hj, mid, first, second, round, rounds, rfl⟩
    · exact (Through.now leave (Nat.le_succ m)).mono fun way => ⟨0, Nat.zero_le _, way⟩

end Parts

/-- A repetition without limit. A run that has come to a choice between another round and the end
of the repetition reads some more rounds. Each round leads to a choice again, perhaps to another
one: `Choice` says at which steps they stand. -/
theorem through_rounds {again back : Nat} (Choice : Nat → Prop)
    (choose : ∀ {m t final}, a.Run m t final → Choice t.step → ∃ m', m' < m ∧
      (a.Run m' { t with step := again } final ∨ a.Run m' { t with step := exit } final))
    (round : a.Passage again back R) (isChoice : Choice back)
    {n : Nat} {t final : Thread} (run : a.Run n t final) (enters : Choice t.step) :
    a.Through exit (fun p marks q => ∃ k, R.times k p marks q) n t final := by
  -- a round may read nothing, but it takes steps: the length of the run decreases
  induction n using Nat.strongRecOn generalizing t with
  | ind n ih =>
    obtain ⟨m, less, onward | leave⟩ := choose run enters
    · have first := round m _ final onward rfl
      have all := first.andThen fun k u le rest leaves =>
        ih k (Nat.lt_of_le_of_lt le less) rest (leaves ▸ isChoice)
      refine (all.of_step.later (Nat.le_of_lt less)).mono ?_
      rintro p marks q ⟨mid, one, others, way, ⟨k, ways⟩, rfl⟩
      exact ⟨k + 1, mid, one, others, way, ways, rfl⟩
    · exact (Through.now leave (Nat.le_of_lt less)).mono fun way => ⟨0, way⟩

end Repetition

/-! ## Terms -/

namespace Regex

open Automaton

variable {a : Automaton} {index : Nat}

theorem contains_one {c d : Char} : (CharClass.one c).contains d = true ↔ d = c := by
  rw [CharClass.one, CharClass.contains_range, Bool.and_eq_true, decide_eq_true_iff,
    decide_eq_true_iff]
  constructor
  · rintro ⟨h, h'⟩
    exact Char.le_antisymm h' h
  · rintro rfl
    exact ⟨Char.le_refl d, Char.le_refl d⟩

theorem passage_char {k : CharClass} (holds : a.Holds index [.read k]) :
    a.Passage index (index + 1) (char k).Reads := by
  rintro n t final run rfl
  obtain ⟨m, c, q, rfl, member, pass, rest⟩ := run.read holds.head
  exact ⟨m, _, [], Nat.le_succ m, rest, rfl, rfl, c, member, pass, rfl⟩

theorem passage_text {t : Text} (holds : a.Holds index (t.map fun c => .read (.one c))) :
    a.Passage index (index + t.length) (text t).Reads := by
  induction t generalizing index with
  | nil =>
    rintro n u final run enters
    exact (Passage.nothing a index n u final run enters).mono fun way => by
      obtain ⟨rfl, rfl⟩ := way
      exact ⟨.refl _, rfl⟩
  | cons c t ih =>
    intro n u final run enters
    have rest := ih (List.map_cons ▸ holds).tail
    rw [Nat.add_assoc, Nat.add_comm 1] at rest
    have first : a.Passage index (index + 1) (char (.one c)).Reads :=
      passage_char fun i s h => holds i s (by
        cases i with
        | zero => exact h
        | succ i => contradiction)
    refine (first.andThen rest n u final run enters).mono ?_
    rintro p marks q ⟨mid, one, others, ⟨d, member, pass, rfl⟩, ⟨pass', rfl⟩, rfl⟩
    obtain rfl := contains_one.1 member
    exact ⟨pass.trans pass', rfl⟩

theorem passage_look {l : Look} (holds : a.Holds index [.check l]) :
    a.Passage index (index + 1) (look l).Reads := by
  rintro n t final run rfl
  obtain ⟨m, rfl, met, rest⟩ := run.check holds.head
  exact ⟨m, _, [], Nat.le_succ m, rest, rfl, rfl, met, rfl, rfl⟩

/-- The steps of a repetition without limit, all of whose rounds may be left out. -/
theorem passage_anyTimes {steps : Nat → List Step} {size : Nat} {greedy empty : Bool} {R : Reading}
    (length : ∀ i, (steps i).length = size)
    (part : ∀ i, a.Holds i (steps i) → a.Passage i (i + size) R)
    (holds : a.Holds index (Repetition.anyTimes steps size greedy empty index)) :
    a.Passage index (index + (size + 2)) (fun p marks q => ∃ k, R.times k p marks q) := by
  have behind := holds.tail.right
  rw [length] at behind
  intro n t final run enters
  refine Repetition.through_rounds (fun i => i = index ∨ i = index + 1 + size) ?_
    (part _ holds.tail.left) (.inr rfl) run (.inl enters)
  rintro m u final run (here | here)
  · obtain ⟨m, rfl, ways⟩ := run.loop (by rw [here]; exact holds.head)
    exact ⟨m, Nat.lt_succ_self m, ways⟩
  · have step := behind.head
    rw [← here] at step
    cases empty with
    | true =>
      obtain ⟨m, rfl, ways⟩ := run.loop step
      exact ⟨m, Nat.lt_succ_self m, ways⟩
    | false =>
      obtain ⟨m, rfl, back⟩ := run.jump step
      obtain ⟨m, rfl, ways⟩ := back.loop holds.head
      exact ⟨m, Nat.lt_add_of_pos_right Nat.two_pos, ways⟩

/-- The steps of a repetition without limit that has one round at least. -/
theorem passage_atLeastOnce {steps : Nat → List Step} {size : Nat} {greedy : Bool} {R : Reading}
    (length : ∀ i, (steps i).length = size)
    (part : ∀ i, a.Holds i (steps i) → a.Passage i (i + size) R)
    (holds : a.Holds index (Repetition.atLeastOnce steps size greedy index)) :
    a.Passage index (index + (size + 1)) (R.andThen fun p marks q => ∃ k, R.times k p marks q) := by
  have behind := holds.right
  rw [length] at behind
  refine (part index holds.left).andThen fun n t final run enters => ?_
  refine Repetition.through_rounds (fun i => i = index + size) ?_
    (part index holds.left) rfl run enters
  rintro m u final run here
  obtain ⟨m, rfl, ways⟩ := run.loop (by rw [here]; exact behind.head)
  exact ⟨m, Nat.lt_succ_self m, ways⟩

/-- The steps of a term read what the term reads. -/
theorem passage {r : Regex} (holds : a.Holds index (r.layout index)) :
    a.Passage index (index + r.size) r.Reads := by
  induction r generalizing index with
  | text t => exact passage_text holds
  | char k => exact passage_char holds
  | look l => exact passage_look holds
  | seq a b iha ihb =>
    have second := holds.right
    rw [length_layout] at second
    rw [size, ← Nat.add_assoc]
    exact (iha holds.left).andThen (ihb second)
  | alt a b iha ihb =>
    have second := holds.tail.right
    rw [length_layout, Nat.add_right_comm] at second
    rw [show index + (alt a b).size = index + a.size + 2 + b.size by rw [size]; omega]
    intro n t final run enters
    obtain ⟨m, rfl, left | right⟩ := run.fork (by rw [enters]; exact holds.head)
    · obtain ⟨k, u, marks, le, rest, leaves, hmarks, way⟩ := iha holds.tail.left m _ final left rfl
      obtain ⟨k, rfl, out⟩ :=
        rest.jump (by rw [leaves, Nat.add_right_comm]; exact second.head)
      exact ⟨k, _, marks, by omega, out, rfl, hmarks, .inl way⟩
    · exact ((ihb second.tail m _ final right rfl).of_step.later (Nat.le_succ m)).mono .inr
  | group n r ih =>
    have last := holds.tail.right
    rw [length_layout] at last
    rw [show index + (group n r).size = index + 1 + r.size + 1 by rw [size]; omega]
    rintro k t final run rfl
    obtain ⟨m, rfl, inside⟩ := run.mark holds.head
    obtain ⟨k, u, marks, le, rest, leaves, hmarks, way⟩ := ih holds.tail.left m _ final inside rfl
    obtain ⟨k, rfl, out⟩ := rest.mark (by rw [leaves]; exact last.head)
    refine ⟨k, _, ((n, .stop), u.place) :: (marks ++ [((n, .start), t.place)]), by omega, out,
      by rw [leaves], ?_, marks, way, rfl⟩
    rw [hmarks]
    simp
  | repeated r least most greedy ih =>
    cases most with
    | some most =>
      have optional := holds.right
      rw [Repetition.length_exactly r.length_layout] at optional
      have first := Repetition.passage_exactly r.length_layout (fun _ => ih) holds.left
      have rest := Repetition.passage_atMost r.length_layout (fun _ => ih) optional rfl
      rw [size, ← Nat.add_assoc]
      intro n t final run enters
      refine (first.andThen rest n t final run enters).mono ?_
      rintro p marks q ⟨mid, some, more, ways, ⟨k, hk, ways'⟩, rfl⟩
      refine ⟨least + k, Nat.le_add_right _ _, ?_, Reading.times_add ways ways'⟩
      rintro m ⟨⟩
      omega
    | none =>
      cases least with
      | zero =>
        intro n t final run enters
        refine (passage_anyTimes r.length_layout (fun _ => ih) holds n t final run enters).mono ?_
        rintro p marks q ⟨k, ways⟩
        exact ⟨k, Nat.zero_le k, by rintro m ⟨⟩, ways⟩
      | succ least =>
        have behind := holds.right
        rw [Repetition.length_exactly r.length_layout] at behind
        have first := Repetition.passage_exactly r.length_layout (fun _ => ih) holds.left
        have rest := passage_atLeastOnce r.length_layout (fun _ => ih) behind
        rw [show index + (repeated r (least + 1) none greedy).size
          = index + least * r.size + (r.size + 1) by rw [size, Nat.succ_mul]; omega]
        intro n t final run enters
        refine (first.andThen rest n t final run enters).mono ?_
        rintro p marks q ⟨mid, some, more, ways, ⟨next, one, others, way, ⟨k, ways'⟩, rfl⟩, rfl⟩
        have last : r.Reads.times (k + 1) mid (others ++ one) q :=
          ⟨next, one, others, way, ways', rfl⟩
        exact ⟨least + (k + 1), by omega, by rintro m ⟨⟩, Reading.times_add ways last⟩

/-- The automaton of a term has the steps of the term. -/
theorem holds_automaton (r : Regex) : r.automaton.Holds 0 (r.layout 0) := fun i s h => by
  rw [Nat.zero_add, automaton, List.getElem?_toArray, h]

/-- A run from the first step has read what the term reads. -/
theorem reads_of_run {r : Regex} {n : Nat} {start : Cursor} {t : Thread}
    (run : r.automaton.Run n ⟨0, start, []⟩ t) : r.Reads start t.marks t.place := by
  obtain ⟨m, u, marks, le, rest, leaves, hmarks, way⟩ :=
    passage r.holds_automaton n _ t run rfl
  have ends : u.step = r.automaton.steps.size := by
    rw [leaves, Nat.zero_add]
    exact (r.length_layout 0).symm
  cases rest with
  | stop =>
    rw [hmarks, List.append_nil]
    exact way
  | step next =>
    have : u.step < r.automaton.steps.size := lt_of_onward next
    omega

end Regex

end HookGraft

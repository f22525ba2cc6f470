import HookGraft.Proofs.Regex.Run
import Mathlib.Logic.Relation

/-!
# Routes through an automaton

Whatever a term reads, the steps of the term lead from its first step past its last one. With the
runs this says that an automaton stands for its term: it comes to the end just where the term reads
something.

## Main definitions

* `Automaton.Leads`: a thread on the way from another one
* `Automaton.Route`: a part of an automaton that can read what a term reads
* `Step.targets`, `Step.UpTo`: the steps that a step names, and bounds for them

## Main results

* `Regex.route`: the steps of a term can read what the term reads
* `Regex.exists_run_iff_reads`: there is a run from a place if the term reads something there
* `Regex.upTo_layout`: the steps of a term name no step behind the one that follows the term
-/

namespace HookGraft

namespace Automaton

variable {a : Automaton} {index stop : Nat} {p : Cursor} {outer : Marks}

/-- A thread is on the way from another one. -/
def Leads (a : Automaton) : Thread → Thread → Prop :=
  Relation.ReflTransGen fun t u => u ∈ a.onward t

namespace Leads

variable {t u final : Thread}

theorem refl (t : Thread) : a.Leads t t := Relation.ReflTransGen.refl

theorem trans (h : a.Leads t u) (h' : a.Leads u final) : a.Leads t final :=
  Relation.ReflTransGen.trans h h'

/-- A way to the end is a run. -/
theorem exists_run (h : a.Leads t final) (ends : final.step = a.steps.size) :
    ∃ n, a.Run n t final := by
  induction h using Relation.ReflTransGen.head_induction_on with
  | refl => exact ⟨0, .stop ends⟩
  | head next _ ih =>
    obtain ⟨n, rest⟩ := ih
    exact ⟨n + 1, .step next rest⟩

theorem read {k : CharClass} {c : Char} {q : Cursor} (here : a.steps[index]? = some (.read k))
    (member : k.contains c = true) (pass : p.Passes [c] q) :
    a.Leads ⟨index, p, outer⟩ ⟨index + 1, q, outer⟩ := by
  obtain ⟨before, after, offset⟩ := q
  obtain ⟨rfl, text, rfl⟩ := pass
  refine Relation.ReflTransGen.single ?_
  simp only [List.cons_append, List.nil_append] at text
  simp [onward, here, text, member]

theorem check {l : Look} (here : a.steps[index]? = some (.check l)) (met : l.holds p = true) :
    a.Leads ⟨index, p, outer⟩ ⟨index + 1, p, outer⟩ :=
  Relation.ReflTransGen.single (by simp [onward, here, met])

theorem mark {n : Nat} {side : Side} (here : a.steps[index]? = some (.mark n side)) :
    a.Leads ⟨index, p, outer⟩ ⟨index + 1, p, ((n, side), p) :: outer⟩ :=
  Relation.ReflTransGen.single (by simp [onward, here])

theorem jump {target : Nat} (here : a.steps[index]? = some (.jump target)) :
    a.Leads ⟨index, p, outer⟩ ⟨target, p, outer⟩ :=
  Relation.ReflTransGen.single (by simp [onward, here])

theorem fork {first second target : Nat} (here : a.steps[index]? = some (.fork first second))
    (either : target = first ∨ target = second) :
    a.Leads ⟨index, p, outer⟩ ⟨target, p, outer⟩ := by
  refine Relation.ReflTransGen.single ?_
  rcases either with rfl | rfl <;> simp [onward, here]

/-- Either choice of a repetition can be taken. -/
theorem loop {greedy : Bool} {again exit target : Nat}
    (here : a.steps[index]? = some (.loop greedy again exit))
    (either : target = again ∨ target = exit) :
    a.Leads ⟨index, p, outer⟩ ⟨target, p, outer⟩ := by
  cases greedy with
  | true => exact fork here either
  | false => exact fork here either.symm

end Leads

/-! ## Parts of an automaton -/

/-- From the step `index` of a part there is a way to the step `stop` over whatever `R` reads. -/
def Route (a : Automaton) (index stop : Nat) (R : Reading) : Prop :=
  ∀ p marks q outer, R p marks q → a.Leads ⟨index, p, outer⟩ ⟨stop, q, marks ++ outer⟩

section Route

variable {R S : Reading} {mid : Nat}

theorem Route.nothing (a : Automaton) (index : Nat) : a.Route index index Reading.nothing := by
  rintro p marks q outer ⟨rfl, rfl⟩
  exact .refl _

theorem Route.andThen (h : a.Route index mid R) (h' : a.Route mid stop S) :
    a.Route index stop (R.andThen S) := by
  rintro p marks q outer ⟨mid, first, second, way, way', rfl⟩
  rw [List.append_assoc]
  exact (h _ _ _ outer way).trans (h' _ _ _ _ way')

end Route

end Automaton

/-! ## Repetitions -/

/-- Some rounds first, and then the rounds that are left. -/
theorem Reading.times_split {R : Reading} {m n : Nat} {p q : Cursor} {marks : Marks}
    (h : R.times (m + n) p marks q) : ((R.times m).andThen (R.times n)) p marks q := by
  induction m generalizing p marks with
  | zero =>
    rw [Nat.zero_add] at h
    exact ⟨p, [], marks, ⟨rfl, rfl⟩, h, by simp⟩
  | succ m ih =>
    rw [Nat.succ_add] at h
    obtain ⟨mid, first, second, round, rest, rfl⟩ := h
    obtain ⟨mid', some, others, ways, ways', rfl⟩ := ih rest
    exact ⟨mid', some ++ first, others, ⟨mid, first, some, round, ways, rfl⟩, ways', by simp⟩

namespace Repetition

open Automaton

variable {a : Automaton} {steps : Nat → List Step} {size index exit : Nat} {greedy : Bool}
  {R : Reading}

section Parts

variable (length : ∀ i, (steps i).length = size)
  (part : ∀ i, a.Holds i (steps i) → a.Route i (i + size) R)
include length part

theorem route_exactly {n : Nat} (holds : a.Holds index (exactly steps size n index)) :
    a.Route index (index + n * size) (R.times n) := by
  induction n generalizing index with
  | zero =>
    rw [Nat.zero_mul]
    exact Route.nothing a index
  | succ n ih =>
    have rest := holds.right
    rw [length] at rest
    rw [show index + (n + 1) * size = index + size + n * size by rw [Nat.succ_mul]; omega]
    exact (part index holds.left).andThen (ih rest)

/-- What may be repeated `n` times can be repeated less often. -/
theorem route_atMost {n : Nat} (holds : a.Holds index (atMost steps size greedy exit n index))
    (last : index + n * (size + 1) = exit) :
    a.Route index exit (fun p marks q => ∃ k ≤ n, R.times k p marks q) := by
  induction n generalizing index with
  | zero =>
    obtain rfl : index = exit := by simpa using last
    rintro p marks q outer ⟨k, none, ways⟩
    obtain rfl := Nat.le_zero.1 none
    exact Route.nothing a index _ _ _ outer ways
  | succ n ih =>
    rintro p marks q outer ⟨k, le, ways⟩
    cases k with
    | zero =>
      obtain ⟨rfl, rfl⟩ := ways
      exact .loop holds.head (.inr rfl)
    | succ k =>
      have rest := holds.tail.right
      rw [length] at rest
      rw [Nat.succ_mul] at last
      obtain ⟨mid, first, second, round, others, rfl⟩ := ways
      have more := (part (index + 1) holds.tail.left).andThen (ih rest (by omega))
      exact (Leads.loop holds.head (.inl rfl)).trans
        (more _ _ _ outer
          ⟨mid, first, second, round, ⟨k, Nat.le_of_succ_le_succ le, others⟩, rfl⟩)

end Parts

/-- A repetition without limit. Each round leads to a choice between another round and the end. -/
theorem route_rounds {again back : Nat} (Choice : Nat → Prop)
    (choose : ∀ {i p outer}, Choice i → a.Leads ⟨i, p, outer⟩ ⟨again, p, outer⟩ ∧
      a.Leads ⟨i, p, outer⟩ ⟨exit, p, outer⟩)
    (round : a.Route again back R) (isChoice : Choice back) (enters : Choice index) :
    a.Route index exit (fun p marks q => ∃ k, R.times k p marks q) := by
  rintro p marks q outer ⟨k, ways⟩
  induction k generalizing index p marks outer with
  | zero =>
    obtain ⟨rfl, rfl⟩ := ways
    exact (choose enters).2
  | succ k ih =>
    obtain ⟨mid, first, second, way, others, rfl⟩ := ways
    rw [List.append_assoc]
    exact ((choose enters).1.trans (round _ _ _ outer way)).trans (ih isChoice _ _ (first ++ outer) others)

end Repetition

/-! ## Terms -/

namespace Regex

open Automaton

variable {a : Automaton} {index : Nat}

theorem route_text {t : Text} (holds : a.Holds index (t.map fun c => .read (.one c))) :
    a.Route index (index + t.length) (text t).Reads := by
  rintro p marks q outer ⟨pass, rfl⟩
  induction t generalizing index p with
  | nil =>
    obtain rfl : q = p := by
      obtain ⟨before, after, offset⟩ := q
      obtain ⟨rfl, text, rfl⟩ := pass
      cases p
      simp_all
    exact .refl _
  | cons c t ih =>
    have holds' : a.Holds index (Step.read (.one c) :: t.map fun c => .read (.one c)) := holds
    have text : p.after = c :: (t ++ q.after) := pass.after
    have behind : Cursor.Passes ⟨c :: p.before, t ++ q.after, p.offset + c.utf8Size⟩ t q :=
      ⟨by simp [pass.before], rfl, by simp [pass.offset, Nat.add_assoc]⟩
    have rest := ih holds'.tail _ behind
    rw [Nat.add_assoc, Nat.add_comm 1] at rest
    exact (Leads.read holds'.head (contains_one.2 rfl) (.single text)).trans rest

/-- The steps of a repetition without limit, all of whose rounds may be left out. -/
theorem route_anyTimes {steps : Nat → List Step} {size : Nat} {greedy empty : Bool} {R : Reading}
    (length : ∀ i, (steps i).length = size)
    (part : ∀ i, a.Holds i (steps i) → a.Route i (i + size) R)
    (holds : a.Holds index (Repetition.anyTimes steps size greedy empty index)) :
    a.Route index (index + (size + 2)) (fun p marks q => ∃ k, R.times k p marks q) := by
  have behind := holds.tail.right
  rw [length] at behind
  have first {p : Cursor} {outer : Marks} {target : Nat}
      (either : target = index + 1 ∨ target = index + size + 2) :
      a.Leads ⟨index, p, outer⟩ ⟨target, p, outer⟩ := .loop holds.head either
  refine Repetition.route_rounds (fun i => i = index ∨ i = index + 1 + size) ?_
    (part _ holds.tail.left) (.inr rfl) (.inl rfl)
  rintro i p outer (rfl | rfl)
  · exact ⟨first (.inl rfl), first (.inr rfl)⟩
  · have step := behind.head
    cases empty with
    | true => exact ⟨.loop step (.inl rfl), .loop step (.inr rfl)⟩
    | false =>
      exact ⟨(Leads.jump step).trans (first (.inl rfl)), (Leads.jump step).trans (first (.inr rfl))⟩

/-- The steps of a repetition without limit that has one round at least. -/
theorem route_atLeastOnce {steps : Nat → List Step} {size : Nat} {greedy : Bool} {R : Reading}
    (length : ∀ i, (steps i).length = size)
    (part : ∀ i, a.Holds i (steps i) → a.Route i (i + size) R)
    (holds : a.Holds index (Repetition.atLeastOnce steps size greedy index)) :
    a.Route index (index + (size + 1)) (R.andThen fun p marks q => ∃ k, R.times k p marks q) := by
  have behind := holds.right
  rw [length] at behind
  refine (part index holds.left).andThen ?_
  refine Repetition.route_rounds (fun i => i = index + size) ?_ (part index holds.left) rfl rfl
  rintro i p outer rfl
  exact ⟨.loop behind.head (.inl rfl), .loop behind.head (.inr rfl)⟩

/-- The steps of a term can read whatever the term reads. -/
theorem route {r : Regex} (holds : a.Holds index (r.layout index)) :
    a.Route index (index + r.size) r.Reads := by
  induction r generalizing index with
  | text t => exact route_text holds
  | char k =>
    rintro p marks q outer ⟨c, member, pass, rfl⟩
    exact .read holds.head member pass
  | look l =>
    rintro p marks q outer ⟨met, rfl, rfl⟩
    exact .check holds.head met
  | seq a b iha ihb =>
    have second := holds.right
    rw [length_layout] at second
    rw [size, ← Nat.add_assoc]
    exact (iha holds.left).andThen (ihb second)
  | alt a b iha ihb =>
    have second := holds.tail.right
    rw [length_layout, Nat.add_right_comm] at second
    rw [show index + (alt a b).size = index + a.size + 2 + b.size by rw [size]; omega]
    rintro p marks q outer (way | way)
    · have inside := iha holds.tail.left _ _ _ outer way
      rw [Nat.add_right_comm] at inside
      exact ((Leads.fork holds.head (.inl rfl)).trans inside).trans (.jump second.head)
    · exact (Leads.fork holds.head (.inr rfl)).trans (ihb second.tail _ _ _ outer way)
  | group n r ih =>
    have last := holds.tail.right
    rw [length_layout] at last
    rw [show index + (group n r).size = index + 1 + r.size + 1 by rw [size]; omega]
    rintro p marks q outer ⟨inner, way, rfl⟩
    have inside := ih holds.tail.left _ _ _ (((n, .start), p) :: outer) way
    have out := ((Leads.mark holds.head).trans inside).trans (.mark last.head)
    simpa using out
  | repeated r least most greedy ih =>
    cases most with
    | some most =>
      have optional := holds.right
      rw [Repetition.length_exactly r.length_layout] at optional
      have first := Repetition.route_exactly r.length_layout (fun _ => ih) holds.left
      have rest := Repetition.route_atMost r.length_layout (fun _ => ih) optional rfl
      rw [size, ← Nat.add_assoc]
      rintro p marks q outer ⟨n, enough, fits, ways⟩
      obtain ⟨k, rfl⟩ := Nat.exists_eq_add_of_le enough
      have few := fits most rfl
      obtain ⟨mid, some, others, required, more, rfl⟩ := Reading.times_split ways
      exact (first.andThen rest) _ _ _ outer
        ⟨mid, some, others, required, ⟨k, by omega, more⟩, rfl⟩
    | none =>
      cases least with
      | zero =>
        rintro p marks q outer ⟨n, -, -, ways⟩
        exact route_anyTimes r.length_layout (fun _ => ih) holds _ _ _ outer ⟨n, ways⟩
      | succ least =>
        have behind := holds.right
        rw [Repetition.length_exactly r.length_layout] at behind
        have first := Repetition.route_exactly r.length_layout (fun _ => ih) holds.left
        have rest := route_atLeastOnce r.length_layout (fun _ => ih) behind
        rw [show index + (repeated r (least + 1) none greedy).size
          = index + least * r.size + (r.size + 1) by rw [size, Nat.succ_mul]; omega]
        rintro p marks q outer ⟨n, enough, -, ways⟩
        obtain ⟨k, rfl⟩ := Nat.exists_eq_add_of_le enough
        rw [Nat.add_assoc, Nat.add_comm 1] at ways
        obtain ⟨mid, some, _, required, ⟨next, one, others, last, more, rfl⟩, rfl⟩ :=
          Reading.times_split ways
        exact (first.andThen rest) _ _ _ outer
          ⟨mid, some, _, required, ⟨next, one, others, last, ⟨k, more⟩, rfl⟩, rfl⟩

end Regex

/-! ## The steps that are named -/

/-- The steps that a step names. -/
def Step.targets : Step → List Nat
  | jump target => [target]
  | fork first second => [first, second]
  | _ => []

/-- Steps that name none behind the step `stop`. -/
def Step.UpTo (stop : Nat) (steps : List Step) : Prop :=
  ∀ s ∈ steps, ∀ target ∈ s.targets, target ≤ stop

namespace Step.UpTo

variable {stop stop' : Nat} {s : Step} {xs ys : List Step}

theorem mono (h : UpTo stop xs) (le : stop ≤ stop') : UpTo stop' xs :=
  fun s member target named => Nat.le_trans (h s member target named) le

@[simp] theorem append_iff : UpTo stop (xs ++ ys) ↔ UpTo stop xs ∧ UpTo stop ys :=
  List.forall_mem_append

@[simp] theorem cons_iff :
    UpTo stop (s :: xs) ↔ (∀ target ∈ s.targets, target ≤ stop) ∧ UpTo stop xs :=
  List.forall_mem_cons

@[simp] theorem nil : UpTo stop [] := by
  rintro s ⟨⟩

@[simp] theorem targets_jump {target : Nat} :
    (∀ target' ∈ (Step.jump target).targets, target' ≤ stop) ↔ target ≤ stop := by
  simp [targets]

@[simp] theorem targets_fork {first second : Nat} :
    (∀ target ∈ (Step.fork first second).targets, target ≤ stop) ↔
      first ≤ stop ∧ second ≤ stop := by
  simp [targets]

@[simp] theorem targets_loop {greedy : Bool} {again exit : Nat} :
    (∀ target ∈ (Step.loop greedy again exit).targets, target ≤ stop) ↔
      again ≤ stop ∧ exit ≤ stop := by
  cases greedy <;> simp [Step.loop, and_comm]

end Step.UpTo

namespace Regex

open Step

variable {index : Nat}

theorem upTo_exactly {steps : Nat → List Step} {size : Nat}
    (part : ∀ i, UpTo (i + size) (steps i)) (n : Nat) :
    UpTo (index + n * size) (Repetition.exactly steps size n index) := by
  induction n generalizing index with
  | zero => exact .nil
  | succ n ih =>
    rw [Nat.succ_mul]
    exact UpTo.append_iff.2 ⟨(part index).mono (by omega), ih.mono (by omega)⟩

theorem upTo_atMost {steps : Nat → List Step} {size exit : Nat} {greedy : Bool}
    (part : ∀ i, UpTo (i + size) (steps i)) (n : Nat) (last : index + n * (size + 1) = exit) :
    UpTo exit (Repetition.atMost steps size greedy exit n index) := by
  induction n generalizing index with
  | zero => exact .nil
  | succ n ih =>
    rw [Nat.succ_mul] at last
    have first := (part (index + 1)).mono (show index + 1 + size ≤ exit by omega)
    have rest := @ih (index + 1 + size) (by omega)
    exact UpTo.cons_iff.2 ⟨UpTo.targets_loop.2 ⟨by omega, Nat.le_refl exit⟩,
      UpTo.append_iff.2 ⟨first, rest⟩⟩

/-- The steps of a term name no step behind the one that follows the term. -/
theorem upTo_layout (r : Regex) : UpTo (index + r.size) (r.layout index) := by
  induction r generalizing index with
  | text t =>
    intro s member target named
    obtain ⟨c, -, rfl⟩ := List.mem_map.1 member
    contradiction
  | char | look => simp [layout, targets]
  | seq a b iha ihb =>
    have second := @ihb (index + a.size)
    rw [size, ← Nat.add_assoc]
    exact UpTo.append_iff.2 ⟨iha.mono (Nat.le_add_right _ _), second⟩
  | alt a b iha ihb =>
    have first := @iha (index + 1)
    have second := @ihb (index + a.size + 2)
    simp only [layout, size, UpTo.cons_iff, UpTo.append_iff, UpTo.targets_fork,
      UpTo.targets_jump, List.cons_append]
    exact ⟨⟨by omega, by omega⟩, first.mono (by omega), by omega, second.mono (by omega)⟩
  | group n r ih =>
    have inside := @ih (index + 1)
    simpa [layout, targets, size] using inside.mono (by omega)
  | repeated r least most greedy ih =>
    have part (i : Nat) : UpTo (i + r.size) (r.layout i) := ih
    cases most with
    | some most =>
      rw [size, ← Nat.add_assoc]
      exact UpTo.append_iff.2
        ⟨(upTo_exactly part least).mono (Nat.le_add_right _ _), upTo_atMost part _ rfl⟩
    | none =>
      cases least with
      | zero =>
        have inside := (part (index + 1)).mono
          (show index + 1 + r.size ≤ index + (r.size + 2) by omega)
        simp only [layout, size, Repetition.anyTimes, UpTo.cons_iff, UpTo.append_iff,
          List.cons_append, UpTo.targets_loop]
        refine ⟨⟨by omega, by omega⟩, inside, ?_, .nil⟩
        split
        · exact UpTo.targets_loop.2 ⟨by omega, by omega⟩
        · exact UpTo.targets_jump.2 (Nat.le_add_right _ _)
      | succ least =>
        have required : UpTo (index + least * r.size)
            (Repetition.exactly r.layout r.size least index) := upTo_exactly part least
        have last := part (index + least * r.size)
        simp only [layout, size, Repetition.atLeastOnce, UpTo.cons_iff, UpTo.append_iff,
          UpTo.targets_loop, Nat.succ_mul]
        exact ⟨required.mono (by omega), last.mono (by omega), ⟨by omega, by omega⟩, .nil⟩

/-! ## Automata of terms -/

/-- An automaton comes to the end from a place just if its term reads something there. -/
theorem exists_run_iff_reads {r : Regex} {p : Cursor} :
    (∃ n final, r.automaton.Run n ⟨0, p, []⟩ final) ↔ ∃ marks q, r.Reads p marks q := by
  constructor
  · rintro ⟨n, final, run⟩
    exact ⟨final.marks, final.place, reads_of_run run⟩
  · rintro ⟨marks, q, reads⟩
    have way := route r.holds_automaton _ _ _ [] reads
    rw [Nat.zero_add] at way
    obtain ⟨n, run⟩ := way.exists_run (r.length_layout 0).symm
    exact ⟨n, _, run⟩

end Regex

end HookGraft

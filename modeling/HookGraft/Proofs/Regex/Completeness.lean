import HookGraft.Proofs.Regex.Route
import HookGraft.Proofs.Regex.Search
import Mathlib.Data.Finset.Card
import Mathlib.Data.Finset.Range

/-!
# What a search does not miss

A search that finds nothing has been everywhere: the steps and places that it has seen lead to no
others, and the end is not among them. So the first match is the leftmost one.

## Main definitions

* `Automaton.Closed`: what has been seen leads only to what has been seen or is yet to be explored
* `Regex.NoneBefore`: a term reads nothing between two places

## Main results

* `Automaton.closed_of_explore`: a search in vain has seen whatever it could come to
* `Regex.first?_eq_none_iff`: no match is found if the term reads nothing anywhere
* `Regex.noneBefore_of_first?`: the first match is the leftmost one
-/

namespace HookGraft

/-! ## Steps and places by number -/

/-- Behind a place, the number of bytes before another one tells where it lies. -/
theorem Cursor.Passes.eq_of_offset {p q r : Cursor} {s t : Text} (h : p.Passes s q)
    (h' : p.Passes t r) (same : q.offset = r.offset) : q = r := by
  have size : Text.utf8Size s = Text.utf8Size t := by
    have := h.offset
    have := h'.offset
    omega
  have split : (s, q.after) = (t, r.after) := Option.some.inj
    ((Text.seekByte?_eq_some_iff.2 ⟨h.after, size⟩).symm.trans
      (Text.seekByte?_eq_some_iff.2 ⟨h'.after, rfl⟩))
  obtain ⟨rfl, after⟩ := Prod.mk.inj split
  have before := h.before.trans h'.before.symm
  cases q
  cases r
  simp_all

namespace Automaton

variable {a : Automaton} {p : Cursor} {t u : Thread} {seen seen' : BitSet}
  {waiting : List Thread}

/-- No step names one behind the end. -/
def Bounded (a : Automaton) : Prop := Step.UpTo a.steps.size a.steps.toList

/-- A thread at a step of an automaton, or at the end, and at a place behind `p`. -/
structure Admits (a : Automaton) (p : Cursor) (t : Thread) : Prop where
  step : t.step ≤ a.steps.size
  place : ∃ s, p.Passes s t.place

/-- A search that begins at a place behind `p` stays behind `p`. -/
theorem Admits.onward (bounded : a.Bounded) (h : a.Admits p t) (next : u ∈ a.onward t) :
    a.Admits p u := by
  have less := lt_of_onward next
  obtain ⟨s, pass⟩ := h.place
  have here : a.steps[t.step]? = some a.steps[t.step] := Array.getElem?_eq_getElem less
  have targets := bounded a.steps[t.step] (Array.mem_toList_iff.2 (Array.getElem_mem less))
  simp only [Automaton.onward, here] at next
  generalize a.steps[t.step] = step at next targets
  cases step with
  | read k =>
    simp only at next
    split at next
    · contradiction
    · rename_i c rest text
      split at next
      · obtain rfl := List.mem_singleton.1 next
        exact ⟨less, s ++ [c], pass.trans (.single text)⟩
      · contradiction
  | check l =>
    simp only at next
    split at next
    · obtain rfl := List.mem_singleton.1 next
      exact ⟨less, s, pass⟩
    · contradiction
  | mark n side =>
    obtain rfl := List.mem_singleton.1 next
    exact ⟨less, s, pass⟩
  | jump target =>
    obtain rfl := List.mem_singleton.1 next
    exact ⟨targets target List.mem_cons_self, s, pass⟩
  | fork first second =>
    rcases List.mem_cons.1 next with rfl | next
    · exact ⟨targets first List.mem_cons_self, s, pass⟩
    · obtain rfl := List.mem_singleton.1 next
      exact ⟨targets second (List.mem_cons_of_mem _ List.mem_cons_self), s, pass⟩

/-- The number of a thread tells its step and its place. -/
theorem Admits.eq_of_key (h : a.Admits p t) (h' : a.Admits p u)
    (same : a.key p.offset t = a.key p.offset u) : t.step = u.step ∧ t.place = u.place := by
  obtain ⟨s, pass⟩ := h.place
  obtain ⟨s', pass'⟩ := h'.place
  have small : t.step < a.steps.size + 1 := Nat.lt_succ_of_le h.step
  have small' : u.step < a.steps.size + 1 := Nat.lt_succ_of_le h'.step
  rw [key, key, Nat.mul_comm, Nat.mul_comm (u.place.offset - p.offset)] at same
  have step := congrArg (· % (a.steps.size + 1)) same
  have place := congrArg (· / (a.steps.size + 1)) same
  simp only [Nat.mul_add_mod, Nat.mod_eq_of_lt, small, small'] at step
  simp only [Nat.mul_add_div (Nat.succ_pos _), Nat.div_eq_of_lt, small, small'] at place
  refine ⟨step, pass.eq_of_offset pass' ?_⟩
  have := pass.offset
  have := pass'.offset
  omega

/-- The numbers of threads are bounded. -/
theorem Admits.key_lt (h : a.Admits p t) :
    a.key p.offset t < (a.steps.size + 1) * (Text.utf8Size p.after + 1) := by
  obtain ⟨s, pass⟩ := h.place
  have small : t.step < a.steps.size + 1 := Nat.lt_succ_of_le h.step
  have fits : t.place.offset - p.offset ≤ Text.utf8Size p.after := by
    rw [pass.offset, pass.after, Text.utf8Size_append]
    omega
  calc a.key p.offset t
      < (t.place.offset - p.offset) * (a.steps.size + 1) + (a.steps.size + 1) :=
        Nat.add_lt_add_left small _
    _ ≤ Text.utf8Size p.after * (a.steps.size + 1) + (a.steps.size + 1) :=
        Nat.add_le_add_right (Nat.mul_le_mul_right _ fits) _
    _ = (a.steps.size + 1) * (Text.utf8Size p.after + 1) := by
        rw [Nat.mul_comm, Nat.mul_add, Nat.mul_one]

/-- Where a thread can go on depends on its step and its place alone. -/
theorem exists_onward_of_eq (step : t.step = u.step) (place : t.place = u.place) {v : Thread}
    (next : v ∈ a.onward t) : ∃ w ∈ a.onward u, w.step = v.step ∧ w.place = v.place := by
  obtain ⟨i, q, marks⟩ := t
  obtain ⟨_, _, marks'⟩ := u
  obtain rfl := step
  obtain rfl := place
  cases here : a.steps[i]? with
  | none => simp [onward, here] at next
  | some s =>
    cases s with
    | read k =>
      simp only [onward, here] at next ⊢
      split at next
      · contradiction
      · split at next
        · rename_i member
          obtain rfl := List.mem_singleton.1 next
          simp [member]
        · contradiction
    | check l =>
      simp only [onward, here] at next ⊢
      split at next
      · rename_i met
        obtain rfl := List.mem_singleton.1 next
        simp [met]
      · contradiction
    | mark n side =>
      simp only [onward, here, List.mem_singleton] at next ⊢
      simp [next]
    | jump target =>
      simp only [onward, here, List.mem_singleton] at next ⊢
      simp [next]
    | fork first second =>
      simp only [onward, here, List.mem_cons, List.not_mem_nil, or_false] at next ⊢
      rcases next with rfl | rfl <;> simp

/-! ## What an exploration leaves behind -/

/-- What has been seen is no end, and leads only to what has been seen or is yet to be explored. -/
def Closed (a : Automaton) (p : Cursor) (seen : BitSet) (waiting : List Thread) : Prop :=
  ∀ t, a.Admits p t → seen.contains (a.key p.offset t) = true → t.step ≠ a.steps.size ∧
    ∀ u ∈ a.onward t, seen.contains (a.key p.offset u) = true ∨
      a.key p.offset u ∈ waiting.map (a.key p.offset)

theorem closed_empty (a : Automaton) (p : Cursor) (waiting : List Thread) :
    a.Closed p .empty waiting := by
  intro t _ seen
  simp at seen

/-- A thread that has been seen need not wait. -/
theorem Closed.skip (h : a.Closed p seen (t :: waiting))
    (known : seen.contains (a.key p.offset t) = true) : a.Closed p seen waiting := by
  intro u admits seen
  obtain ⟨inside, ways⟩ := h u admits seen
  refine ⟨inside, fun v next => ?_⟩
  rcases ways v next with old | waits
  · exact .inl old
  · rcases List.mem_cons.1 waits with same | later
    · exact .inl (same ▸ known)
    · exact .inr later

/-- A thread that is seen makes those wait that it leads to. -/
theorem Closed.insert (h : a.Closed p seen (t :: waiting)) (admits : a.Admits p t)
    (inside : t.step ≠ a.steps.size) :
    a.Closed p (seen.insert (a.key p.offset t)) (a.onward t ++ waiting) := by
  intro u admits' known
  rw [BitSet.contains_insert, Bool.or_eq_true, decide_eq_true_iff] at known
  by_cases same : a.key p.offset t = a.key p.offset u
  · obtain ⟨step, place⟩ := admits'.eq_of_key admits same.symm
    refine ⟨step ▸ inside, fun v next => .inr ?_⟩
    obtain ⟨w, next', step', place'⟩ := exists_onward_of_eq step place next
    rw [List.map_append, List.mem_append]
    exact .inl (List.mem_map.2 ⟨w, next', by rw [key, key, step', place']⟩)
  · obtain ⟨inside', ways⟩ := h u admits' (known.resolve_left same)
    refine ⟨inside', fun v next => ?_⟩
    rw [BitSet.contains_insert, Bool.or_eq_true, decide_eq_true_iff, List.map_append,
      List.mem_append]
    rcases ways v next with old | waits
    · exact .inl (.inr old)
    · rcases List.mem_cons.1 waits with here | later
      · exact .inl (.inl here.symm)
      · exact .inr (.inr later)

/-- No run comes to the end from what has been seen in vain. -/
theorem Closed.not_run (h : a.Closed p seen []) (bounded : a.Bounded) {n : Nat} {final : Thread}
    (admits : a.Admits p t) (known : seen.contains (a.key p.offset t) = true) :
    ¬ a.Run n t final := by
  intro run
  induction run with
  | stop ends => exact (h _ admits known).1 ends
  | step next _ ih =>
    refine ih (admits.onward bounded next) ?_
    exact ((h _ admits known).2 _ next).resolve_right (List.not_mem_nil)

/-- How many numbers below a bound have not been seen. -/
def unseen (seen : BitSet) (bound : Nat) : Nat :=
  ((Finset.range bound).filter fun n => seen.contains n = false).card

theorem unseen_insert_lt {n bound : Nat} (less : n < bound) (new : seen.contains n = false) :
    unseen (seen.insert n) bound < unseen seen bound := by
  have member : n ∈ (Finset.range bound).filter fun n => seen.contains n = false := by
    simp [less, new]
  refine Nat.lt_of_le_of_lt (Finset.card_le_card ?_) (Finset.card_erase_lt_of_mem member)
  intro m
  simp only [Finset.mem_filter, Finset.mem_erase, BitSet.contains_insert, Bool.or_eq_false_iff,
    decide_eq_false_iff_not]
  rintro ⟨low, other, new⟩
  exact ⟨fun e => other e.symm, low, new⟩

theorem unseen_le (seen : BitSet) (bound : Nat) : unseen seen bound ≤ bound :=
  Nat.le_trans (Finset.card_filter_le _ _) (Nat.le_of_eq (Finset.card_range bound))

theorem length_onward_le (a : Automaton) (t : Thread) : (a.onward t).length ≤ 2 := by
  unfold onward
  split
  · exact Nat.zero_le 2
  · split
    · exact Nat.zero_le 2
    · split <;> simp
  · split <;> simp
  · exact Nat.le_succ 1
  · exact Nat.le_succ 1
  · exact Nat.le_refl 2

/-- An exploration in vain has seen all that was waiting and whatever this leads to, and nothing is
left to be explored. Each number is seen once at most, and makes two threads wait at most. -/
theorem closed_of_explore {fuel : Nat} (bounded : a.Bounded)
    (admits : ∀ t ∈ waiting, a.Admits p t) (closed : a.Closed p seen waiting)
    (enough : 2 * unseen seen ((a.steps.size + 1) * (Text.utf8Size p.after + 1)) +
      waiting.length ≤ fuel)
    (h : a.explore p.offset fuel waiting seen = (none, seen')) :
    a.Closed p seen' [] ∧ (∀ n, seen.contains n = true → seen'.contains n = true) ∧
      ∀ t ∈ waiting, seen'.contains (a.key p.offset t) = true := by
  induction fuel generalizing waiting seen with
  | zero =>
    obtain rfl : waiting = [] := List.length_eq_zero_iff.1 (by omega)
    obtain ⟨-, rfl⟩ := Prod.mk.inj h
    exact ⟨closed, fun n known => known, by simp⟩
  | succ fuel ih =>
    cases waiting with
    | nil =>
      obtain ⟨-, rfl⟩ := Prod.mk.inj h
      exact ⟨closed, fun n known => known, by simp⟩
    | cons t waiting =>
      obtain ⟨here, others⟩ := List.forall_mem_cons.1 admits
      simp only [explore] at h
      split at h
      · rename_i known
        obtain ⟨closed', kept, all⟩ := ih others (closed.skip known)
          (by rw [List.length_cons] at enough; omega) h
        exact ⟨closed', kept, List.forall_mem_cons.2 ⟨kept _ known, all⟩⟩
      · rename_i new
        split at h
        · simp at h
        · rename_i inside
          have next : ∀ u ∈ a.onward t ++ waiting, a.Admits p u := fun u member =>
            (List.mem_append.1 member).elim (here.onward bounded) (others u)
          have fewer := unseen_insert_lt here.key_lt (Bool.not_eq_true _ ▸ new)
          have two := a.length_onward_le t
          obtain ⟨closed', kept, all⟩ := ih next (closed.insert here inside)
            (by rw [List.length_append]; rw [List.length_cons] at enough; omega) h
          have old (n : Nat) (known : seen.contains n = true) : seen'.contains n = true :=
            kept n (by rw [BitSet.contains_insert, known, Bool.or_true])
          refine ⟨closed', old, List.forall_mem_cons.2 ⟨kept _ ?_, fun u member =>
            all u (List.mem_append_right _ member)⟩⟩
          rw [BitSet.contains_insert, decide_eq_true rfl, Bool.true_or]

/-- What has been seen when an exploration has been in vain. -/
theorem Closed.vain {fuel : Nat} (h : a.Closed p seen []) (bounded : a.Bounded)
    (enough : a.fuel p.after ≤ fuel) (admits : a.Admits p t)
    (none : a.explore p.offset fuel [t] seen = (none, seen')) :
    a.Closed p seen' [] ∧ seen'.contains (a.key p.offset t) = true := by
  have waits : a.Closed p seen [t] := by
    intro u admits known
    obtain ⟨inside, ways⟩ := h u admits known
    exact ⟨inside, fun v next => .inl ((ways v next).resolve_right List.not_mem_nil)⟩
  have room := unseen_le seen ((a.steps.size + 1) * (Text.utf8Size p.after + 1))
  have time : 2 * unseen seen ((a.steps.size + 1) * (Text.utf8Size p.after + 1)) + [t].length ≤
      fuel := by
    rw [List.length_singleton]
    unfold Automaton.fuel at enough
    omega
  obtain ⟨closed, -, all⟩ :=
    closed_of_explore bounded (List.forall_mem_singleton.2 admits) waits time none
  exact ⟨closed, all t List.mem_cons_self⟩

/-- The thread that starts a search at a place. -/
theorem admits_start {q : Cursor} {s : Text} (a : Automaton) (pass : p.Passes s q) :
    a.Admits p ⟨0, q, []⟩ := ⟨Nat.zero_le _, s, pass⟩

/-! ## Searches -/

/-- A search from a place on comes to every place before the match that it finds, and to every place
at all if it finds none. -/
theorem not_run_of_searchFrom? {fuel offset : Nat} {before after : Text} {s : Text}
    (bounded : a.Bounded) (enough : a.fuel p.after ≤ fuel)
    (pass : p.Passes s ⟨before, after, offset⟩) (closed : a.Closed p seen [])
    {q : Cursor} {t : Text} (pass' : Cursor.Passes ⟨before, after, offset⟩ t q)
    (early : ∀ m, a.searchFrom? p.offset fuel seen before offset after = some m →
      q.offset < m.whole.start.offset)
    {n : Nat} {final : Thread} : ¬ a.Run n ⟨0, q, []⟩ final := by
  induction after generalizing seen before offset s t with
  | nil =>
    obtain rfl : t = [] := (List.append_eq_nil_iff.1 pass'.after.symm).1
    obtain rfl := (Cursor.Passes.refl _).eq_of_offset pass' (by simp [pass'.offset])
    cases found : a.explore p.offset fuel [⟨0, ⟨before, [], offset⟩, []⟩] seen with
    | mk result seen' =>
      cases result with
      | none =>
        obtain ⟨closed', known⟩ := closed.vain bounded enough (a.admits_start pass) found
        exact closed'.not_run bounded (a.admits_start pass) known
      | some u =>
        have := early _ (by rw [searchFrom?, found]; rfl)
        exact absurd this (Nat.lt_irrefl _)
  | cons c rest ih =>
    cases found : a.explore p.offset fuel [⟨0, ⟨before, c :: rest, offset⟩, []⟩] seen with
    | mk result seen' =>
      cases result with
      | some u =>
        have := early _ (by rw [searchFrom?, found])
        have := pass'.offset
        simp only [Match.ofThread] at *
        omega
      | none =>
        obtain ⟨closed', known⟩ := closed.vain bounded enough (a.admits_start pass) found
        simp only [searchFrom?, found] at early
        cases t with
        | nil =>
          obtain rfl := (Cursor.Passes.refl _).eq_of_offset pass' (by simp [pass'.offset])
          exact closed'.not_run bounded (a.admits_start pass) known
        | cons d t =>
          obtain ⟨rfl, text⟩ := List.cons.inj pass'.after
          have step : Cursor.Passes ⟨before, c :: rest, offset⟩ [c]
            ⟨c :: before, rest, offset + c.utf8Size⟩ := .single rfl
          have behind : Cursor.Passes ⟨c :: before, rest, offset + c.utf8Size⟩ t q :=
            ⟨by rw [pass'.before]; simp, text, by rw [pass'.offset]; simp [Nat.add_assoc]⟩
          exact ih (pass.trans step) closed' behind early

end Automaton

namespace Regex

variable {r : Regex} {p q : Cursor} {m : Match}

theorem bounded_automaton (r : Regex) : r.automaton.Bounded := by
  have whole : Step.UpTo (0 + r.size) (r.layout 0) := upTo_layout r
  rw [Nat.zero_add, ← r.length_layout 0] at whole
  exact whole

/-- From a place on, a term reads nothing before another place. -/
def NoneBefore (r : Regex) (p q : Cursor) : Prop :=
  ∀ s mid marks stop, p.Passes s mid → mid.offset < q.offset → ¬ r.Reads mid marks stop

/-- From a place on, a term reads nothing. -/
def NoneFrom (r : Regex) (p : Cursor) : Prop :=
  ∀ s mid marks stop, p.Passes s mid → ¬ r.Reads mid marks stop

section Search

variable {fuel : Nat} (enough : r.automaton.fuel p.after ≤ fuel)
include enough

theorem not_reads_of_firstFrom? {s : Text} {marks : Marks} {stop : Cursor} (pass : p.Passes s q)
    (early : ∀ m, r.automaton.firstFrom? fuel p = some m → q.offset < m.whole.start.offset) :
    ¬ r.Reads q marks stop := by
  intro reads
  obtain ⟨n, final, run⟩ := exists_run_iff_reads.2 ⟨marks, stop, reads⟩
  exact Automaton.not_run_of_searchFrom? r.bounded_automaton enough (.refl p)
    (Automaton.closed_empty _ _ _) pass early run

/-- If a search finds nothing, the term reads nothing. -/
theorem noneFrom_of_firstFrom? (h : r.automaton.firstFrom? fuel p = none) : r.NoneFrom p :=
  fun _ _ _ _ pass => not_reads_of_firstFrom? enough pass (by simp [h])

/-- A search finds the leftmost match. -/
theorem noneBefore_of_firstFrom? (h : r.automaton.firstFrom? fuel p = some m) :
    r.NoneBefore p m.whole.start := fun _ _ _ _ pass less =>
  not_reads_of_firstFrom? enough pass fun m' h' => by
    obtain rfl := Option.some.inj (h.symm.trans h')
    exact less

end Search

variable {text : Text}

/-- Nothing is found just if the term reads nothing anywhere. -/
theorem first?_eq_none_iff : r.first? text = none ↔ r.NoneFrom (Cursor.start text) := by
  constructor
  · exact noneFrom_of_firstFrom? (Nat.le_refl _)
  · intro none
    cases found : r.first? text with
    | none => rfl
    | some m =>
      obtain ⟨isMatch, s, pass⟩ := first?_sound found
      obtain ⟨marks, reads, -⟩ := isMatch.reads
      exact absurd reads (none s _ marks _ pass)

/-- The first match is the leftmost one. -/
theorem noneBefore_of_first? (h : r.first? text = some m) :
    r.NoneBefore (Cursor.start text) m.whole.start :=
  noneBefore_of_firstFrom? (Nat.le_refl _) h

end Regex

end HookGraft

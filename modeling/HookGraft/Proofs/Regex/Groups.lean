import HookGraft.Proofs.Regex.Search

/-!
# Groups inside matches

A group that takes part in a match begins and ends on the way, in this order, whatever surrounds it:
in a repetition its last two marks come from the same round. So what a group has read lies inside
the match.

## Main definitions

* `Marks.Between`: marks between two places, with both sides of every group

## Main results

* `Regex.Reads.marks_between`: the marks that a term leaves lie between the places that it reads
* `Regex.Matches.group_inside`: a group that took part lies inside the match
-/

namespace HookGraft

/-- Marks that lie between two places. A group has left no marks, or it has left marks for both of
its sides and the last of these are in order. -/
structure Marks.Between (marks : Marks) (p q : Cursor) : Prop where
  lies : ∀ mark ∈ marks, ∃ s t, p.Passes s mark.2 ∧ mark.2.Passes t q
  paired : ∀ n, marks.lookup (n, .start) = none ∧ marks.lookup (n, .stop) = none ∨
    ∃ start stop t, marks.lookup (n, .start) = some start ∧ marks.lookup (n, .stop) = some stop ∧
      start.Passes t stop

namespace Marks.Between

variable {marks first second : Marks} {p mid q : Cursor} {s t : Text}

theorem nil (p q : Cursor) : Between [] p q := ⟨nofun, fun _ => .inl ⟨rfl, rfl⟩⟩

theorem of_lookup (h : marks.Between p q) {key : Nat × Side} {place : Cursor}
    (found : marks.lookup key = some place) : ∃ s t, p.Passes s place ∧ place.Passes t q := by
  obtain ⟨_, _, rfl, -⟩ := List.lookup_eq_some_iff.1 found
  exact h.lies (key, place) (by simp)

/-- The marks of a later way stand in front, and the last marks of a group are both among them or
both among the earlier ones. -/
theorem append (h : first.Between p mid) (h' : second.Between mid q) (pass : p.Passes s mid)
    (pass' : mid.Passes t q) : Between (second ++ first) p q where
  lies mark member := by
    rcases List.mem_append.1 member with later | earlier
    · obtain ⟨u, v, before, behind⟩ := h'.lies mark later
      exact ⟨_, v, pass.trans before, behind⟩
    · obtain ⟨u, v, before, behind⟩ := h.lies mark earlier
      exact ⟨u, _, before, behind.trans pass'⟩
  paired n := by
    simp only [List.lookup_append]
    rcases h'.paired n with ⟨noStart, noStop⟩ | ⟨start, stop, u, begins, ends, inside⟩
    · simpa only [noStart, noStop, Option.none_or] using h.paired n
    · exact .inr ⟨start, stop, u, by rw [begins, Option.some_or], by rw [ends, Option.some_or], inside⟩

/-- The two sides of a group around the marks inside it. -/
theorem group (h : marks.Between p q) (pass : p.Passes t q) (n : Nat) :
    Between (((n, .stop), q) :: (marks ++ [((n, .start), p)])) p q where
  lies := by
    refine List.forall_mem_cons.2 ⟨⟨t, [], pass, .refl q⟩, List.forall_mem_append.2 ⟨h.lies, ?_⟩⟩
    exact List.forall_mem_singleton.2 ⟨[], t, .refl p, pass⟩
  paired m := by
    have other : ((m, Side.start) == (n, Side.stop)) = false := by simp
    have other' : ((m, Side.stop) == (n, Side.start)) = false := by simp
    simp only [List.lookup_cons, List.lookup_append, List.lookup_nil, other, other', Option.or_none]
    by_cases same : m = n
    · subst same
      cases inner : marks.lookup (m, .start) with
      | none => exact .inr ⟨p, q, t, by simp, by simp, pass⟩
      | some start =>
        obtain ⟨u, v, -, behind⟩ := h.of_lookup inner
        exact .inr ⟨start, q, v, by simp, by simp, behind⟩
    · have differ : ∀ side : Side, ((m, side) == (n, side)) = false := by simp [same]
      simpa only [differ, Option.or_none] using h.paired m

end Marks.Between

/-- The marks of some rounds lie between the places that they read. -/
theorem Reading.between_times {R : Reading}
    (h : ∀ {p marks q}, R p marks q → marks.Between p q)
    (h' : ∀ {p marks q}, R p marks q → ∃ t, p.Passes t q) {n : Nat}
    {p q : Cursor} {marks : Marks} (way : R.times n p marks q) :
    marks.Between p q := by
  induction n generalizing p marks with
  | zero =>
    obtain ⟨rfl, rfl⟩ := way
    exact .nil q q
  | succ n ih =>
    obtain ⟨mid, first, second, round, others, rfl⟩ := way
    obtain ⟨s, pass⟩ := h' round
    obtain ⟨t, pass'⟩ := Reading.passes_times h' others
    exact (h round).append (ih others) pass pass'

namespace Regex

variable {r : Regex} {p q : Cursor} {marks : Marks} {m : Match} {e : Extent}

/-- The marks that a term leaves lie between the places that it reads. -/
theorem Reads.marks_between (h : r.Reads p marks q) : marks.Between p q := by
  induction r generalizing p marks q with
  | text t => exact h.2 ▸ .nil p q
  | char k =>
    obtain ⟨c, -, -, rfl⟩ := h
    exact .nil p q
  | look l => exact h.2.2 ▸ .nil p q
  | seq a b iha ihb =>
    obtain ⟨mid, first, second, left, right, rfl⟩ := h
    obtain ⟨s, pass⟩ := left.passes
    obtain ⟨t, pass'⟩ := right.passes
    exact (iha left).append (ihb right) pass pass'
  | alt a b iha ihb =>
    rcases h with h | h
    · exact iha h
    · exact ihb h
  | group n r ih =>
    obtain ⟨inner, h, rfl⟩ := h
    obtain ⟨t, pass⟩ := h.passes
    exact (ih h).group pass n
  | repeated r least most greedy ih =>
    obtain ⟨n, -, -, rounds⟩ := h
    exact Reading.between_times ih Reads.passes rounds

/-- Only groups that are counted take part in a match. -/
theorem Matches.le_groupCount {n : Nat} (h : r.Matches m) (found : m.group? n = some e) :
    ∃ i < r.groupCount, n = i + 1 := by
  obtain ⟨t, -, eq⟩ := h
  cases n with
  | zero => contradiction
  | succ i =>
    refine ⟨i, Nat.lt_of_not_le fun out => ?_, rfl⟩
    rw [eq, Match.group?, Match.ofThread, List.getElem?_eq_none (by simpa using out)] at found
    contradiction

/-- A group that took part in a match lies inside it. -/
theorem Matches.group_inside {n : Nat} (h : r.Matches m) (found : m.group? n = some e) :
    ∃ before inside after, m.whole.start.Passes before e.start ∧ e.start.Passes inside e.stop ∧
      e.stop.Passes after m.whole.stop := by
  obtain ⟨i, counted, rfl⟩ := h.le_groupCount found
  obtain ⟨marks, reads, groups⟩ := h.reads
  have between := reads.marks_between
  rw [groups i counted] at found
  simp only [Marks.extent?, Option.bind_eq_bind, Option.bind_eq_some_iff, Option.pure_def,
    Option.some.injEq] at found
  obtain ⟨start, begins, stop, ends, rfl⟩ := found
  obtain ⟨before, -, ahead, -⟩ := between.of_lookup begins
  obtain ⟨-, after, -, behind⟩ := between.of_lookup ends
  rcases between.paired (i + 1) with ⟨none, -⟩ | ⟨_, _, inside, begins', ends', pass⟩
  · rw [begins] at none
    contradiction
  · obtain rfl := Option.some.inj (begins.symm.trans begins')
    obtain rfl := Option.some.inj (ends.symm.trans ends')
    exact ⟨before, inside, after, ahead, pass, behind⟩

end Regex

end HookGraft

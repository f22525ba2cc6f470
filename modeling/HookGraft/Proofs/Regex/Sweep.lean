import HookGraft.Proofs.Regex.Completeness

/-!
# Searches for all matches

A search for all matches takes the first match behind a place and goes on behind it. An empty match
where another match ends is passed over, and behind an empty match the search goes on one character
further. So the matches come in strict order, and one of them touches each place where the term reads
something. A term that cannot read nothing has no empty matches, and each match is simply the first
one behind the match before it.

## Main definitions

* `Match.Precedes`: a match that lies before another one
* `Regex.IsEarliest`: the first match at or behind a place
* `Regex.Sweeps`: what a search for all matches does from a place on
* `Regex.Scans`: the same for a term that cannot read nothing

## Main results

* `Regex.allMatches_sweeps`: a search for all matches sweeps the text
* `Regex.Sweeps.pairwise`, `Regex.Sweeps.length_le`, `Regex.Sweeps.touches`: what this says of the
  matches
* `Regex.allMatches_scans`: a search for a term that cannot read nothing passes no match over
-/

namespace HookGraft

/-! ## Places by their number of bytes -/

namespace Cursor.Passes

variable {p q r : Cursor} {s t : Text} {c : Char}

theorem offset_le (h : p.Passes t q) : p.offset ≤ q.offset := by
  rw [h.offset]
  exact Nat.le_add_right _ _

theorem offset_lt (h : p.Passes [c] q) : p.offset < q.offset := by
  rw [h.offset, Text.utf8Size_cons]
  have := c.utf8Size_pos
  omega

theorem length_after (h : p.Passes t q) : p.after.length = t.length + q.after.length := by
  rw [h.after, List.length_append]

/-- Of two places behind a place, the one with more bytes before it lies behind the other. -/
theorem of_offset_le (h : p.Passes s q) (h' : p.Passes t r) (le : q.offset ≤ r.offset) :
    ∃ u, q.Passes u r := by
  have whole : s ++ q.after = t ++ r.after := h.after.symm.trans h'.after
  rcases List.append_eq_append_iff.1 whole with ⟨u, rfl, behind⟩ | ⟨u, rfl, -⟩
  · refine ⟨u, ?_, behind, ?_⟩
    · rw [h'.before, h.before, List.reverse_append, List.append_assoc]
    · rw [h'.offset, h.offset, Text.utf8Size_append, Nat.add_assoc]
  · have none : Text.utf8Size u = 0 := by
      rw [h.offset, h'.offset, Text.utf8Size_append] at le
      omega
    obtain rfl := Text.utf8Size_eq_zero_iff.1 none
    obtain rfl : q = r := h.eq_of_offset h' (by rw [h.offset, h'.offset, List.append_nil])
    exact ⟨[], .refl q⟩

/-- A place with more bytes before it lies behind the next character. -/
theorem exists_next (h : p.Passes t q) (less : p.offset < q.offset) :
    ∃ c next u, p.Passes [c] next ∧ next.Passes u q := by
  cases t with
  | nil =>
    have := h.offset
    simp only [Text.utf8Size_nil] at this
    omega
  | cons c u =>
    have step : p.Passes [c] _ := single h.after
    obtain ⟨v, behind⟩ := step.of_offset_le h (by simp [h.offset])
    exact ⟨c, _, v, step, behind⟩

end Cursor.Passes

/-- A match that lies before another one. It begins earlier and ends no later than the other begins,
and where it ends no empty match begins. -/
structure Match.Precedes (m m' : Match) : Prop where
  start_lt : m.whole.start.offset < m'.whole.start.offset
  stop_le : m.whole.stop.offset ≤ m'.whole.start.offset
  apart : m'.whole.isEmpty = true → m.whole.stop.offset < m'.whole.start.offset

namespace Regex

variable {r : Regex} {p q : Cursor} {m : Match} {ms : List Match} {occupied : Bool}

theorem Matches.offset_le (h : r.Matches m) : m.whole.start.offset ≤ m.whole.stop.offset := by
  obtain ⟨t, inside⟩ := h.passes
  exact inside.offset_le

/-- A match that is not empty reads some characters. -/
theorem Matches.passes_cons (h : r.Matches m) (full : m.whole.isEmpty = false) :
    ∃ c t, m.whole.start.Passes (c :: t) m.whole.stop := by
  obtain ⟨t, inside⟩ := h.passes
  cases t with
  | cons c t => exact ⟨c, t, inside⟩
  | nil => simp [Extent.isEmpty, inside.offset] at full

theorem Matches.offset_lt (h : r.Matches m) (full : m.whole.isEmpty = false) :
    m.whole.start.offset < m.whole.stop.offset := by
  rw [Extent.isEmpty, beq_eq_false_iff_ne] at full
  exact Nat.lt_of_le_of_ne h.offset_le full

/-- The first match at or behind a place. -/
structure IsEarliest (r : Regex) (p : Cursor) (m : Match) : Prop where
  isMatch : r.Matches m
  passes : ∃ t, p.Passes t m.whole.start
  noneBefore : r.NoneBefore p m.whole.start

theorem IsEarliest.passes_stop (h : r.IsEarliest p m) : ∃ t, p.Passes t m.whole.stop := by
  obtain ⟨s, pass⟩ := h.passes
  obtain ⟨t, inside⟩ := h.isMatch.passes
  exact ⟨_, pass.trans inside⟩

/-- What a search finds from a place on, if it has time enough. -/
def Yields (r : Regex) (p : Cursor) (result : Option Match) : Prop :=
  ∃ fuel, r.automaton.fuel p.after ≤ fuel ∧ r.automaton.firstFrom? fuel p = result

theorem Yields.noneFrom (h : r.Yields p none) : r.NoneFrom p := by
  obtain ⟨fuel, enough, search⟩ := h
  exact noneFrom_of_firstFrom? enough search

theorem Yields.isEarliest (h : r.Yields p (some m)) : r.IsEarliest p m := by
  obtain ⟨fuel, enough, search⟩ := h
  obtain ⟨isMatch, passes⟩ := Automaton.firstFrom?_sound search
  exact ⟨isMatch, passes, noneBefore_of_firstFrom? enough search⟩

/-- What a search for all matches does from a place on. If the place is occupied, a match ends there
and no empty one may begin there. -/
inductive Sweeps (r : Regex) : (occupied : Bool) → Cursor → List Match → Prop where
  | vain {occupied : Bool} {p : Cursor} : r.Yields p none → Sweeps r occupied p []
  | full {occupied : Bool} {p : Cursor} {m : Match} {rest : List Match} :
      r.Yields p (some m) → m.whole.isEmpty = false → Sweeps r true m.whole.stop rest →
      Sweeps r occupied p (m :: rest)
  | empty {occupied : Bool} {p : Cursor} {m : Match} {rest : List Match} :
      r.Yields p (some m) → m.whole.isEmpty = true →
      (occupied = true → m.whole.start.offset ≠ p.offset) →
      (m.whole.stop.after = [] → rest = []) →
      (∀ c next, m.whole.stop.Passes [c] next → Sweeps r false next rest) →
      Sweeps r occupied p (m :: rest)
  | passed {p : Cursor} {m : Match} {rest : List Match} :
      r.Yields p (some m) → m.whole.isEmpty = true → m.whole.start.offset = p.offset →
      (p.after = [] → rest = []) → (∀ c next, p.Passes [c] next → Sweeps r false next rest) →
      Sweeps r true p rest

/-! ## What a search finds -/

namespace Sweeps

/-- Behind the end of the text nothing is found, and else the search goes on behind a character. -/
theorem cases_next {p : Cursor} {rest : List Match} (atEnd : p.after = [] → rest = [])
    (onward : ∀ c next, p.Passes [c] next → r.Sweeps false next rest) :
    rest = [] ∨ ∃ c next, p.Passes [c] next ∧ r.Sweeps false next rest := by
  cases text : p.after with
  | nil => exact .inl (atEnd text)
  | cons c after => exact .inr ⟨c, _, .single text, onward c _ (.single text)⟩

/-- No match begins before the place, and no empty one at the place if it is occupied. -/
theorem behind (h : r.Sweeps occupied p ms) (member : m ∈ ms) :
    p.offset ≤ m.whole.start.offset ∧
      (occupied = true → m.whole.isEmpty = true → p.offset < m.whole.start.offset) := by
  induction h with
  | vain => contradiction
  | full found full _ ih =>
    have first := found.isEarliest
    obtain ⟨s, pass⟩ := first.passes
    have le := pass.offset_le
    rcases List.mem_cons.1 member with rfl | later
    · exact ⟨le, fun _ empty => absurd (full.symm.trans empty) Bool.false_ne_true⟩
    · have lt := first.isMatch.offset_lt full
      have := (ih later).1
      exact ⟨by omega, fun _ _ => by omega⟩
  | empty found _ free atEnd onward ih =>
    have first := found.isEarliest
    obtain ⟨s, pass⟩ := first.passes
    have le := pass.offset_le
    rcases List.mem_cons.1 member with rfl | later
    · exact ⟨le, fun isOccupied _ => Nat.lt_of_le_of_ne le fun same => free isOccupied same.symm⟩
    · rcases cases_next atEnd onward with rfl | ⟨c, next, step, _⟩
      · contradiction
      · have := (ih c next step later).1
        have := step.offset_lt
        have := first.isMatch.offset_le
        exact ⟨by omega, fun _ _ => by omega⟩
  | passed _ _ _ atEnd onward ih =>
    rcases cases_next atEnd onward with rfl | ⟨c, next, step, _⟩
    · contradiction
    · have := (ih c next step member).1
      have := step.offset_lt
      exact ⟨by omega, fun _ _ => by omega⟩

/-- The matches come in strict order. -/
theorem pairwise (h : r.Sweeps occupied p ms) : ms.Pairwise Match.Precedes := by
  induction h with
  | vain => exact .nil
  | full found full rest ih =>
    refine .cons (fun m' later => ?_) ih
    have lt := found.isEarliest.isMatch.offset_lt full
    obtain ⟨le, apart⟩ := rest.behind later
    exact ⟨by omega, le, apart rfl⟩
  | empty found _ _ atEnd onward ih =>
    rcases cases_next atEnd onward with rfl | ⟨c, next, step, rest⟩
    · exact List.pairwise_singleton _ _
    · refine .cons (fun m' later => ?_) (ih c next step)
      have lt := step.offset_lt
      have le := found.isEarliest.isMatch.offset_le
      have := (rest.behind later).1
      exact ⟨by omega, by omega, fun _ => by omega⟩
  | passed _ _ _ atEnd onward ih =>
    rcases cases_next atEnd onward with rfl | ⟨c, next, step, _⟩
    · exact .nil
    · exact ih c next step

/-- There is one match at most for each character, and one at the end. -/
theorem length_le (h : r.Sweeps occupied p ms) : ms.length ≤ p.after.length + 1 := by
  induction h with
  | vain => exact Nat.zero_le _
  | full found full _ ih =>
    have first := found.isEarliest
    obtain ⟨s, pass⟩ := first.passes
    obtain ⟨c, t, inside⟩ := first.isMatch.passes_cons full
    have := pass.length_after
    have := inside.length_after
    simp only [List.length_cons] at *
    omega
  | empty found _ _ atEnd onward ih =>
    obtain ⟨s, pass⟩ := found.isEarliest.passes_stop
    have := pass.length_after
    rcases cases_next atEnd onward with rfl | ⟨c, next, step, _⟩
    · simp
    · have := step.length_after
      have := ih c next step
      simp only [List.length_cons, List.length_nil] at *
      omega
  | passed _ _ _ atEnd onward ih =>
    rcases cases_next atEnd onward with rfl | ⟨c, next, step, _⟩
    · exact Nat.zero_le _
    · have := step.length_after
      have := ih c next step
      omega

/-- Each place where the term reads something is touched by a match, unless it is the place where the
search begins and this is occupied. -/
theorem touches (h : r.Sweeps occupied p ms) {s : Text} {marks : Marks} {stop : Cursor}
    (pass : p.Passes s q) (reads : r.Reads q marks stop) :
    (occupied = true ∧ q = p) ∨
      ∃ m ∈ ms, m.whole.start.offset ≤ q.offset ∧ q.offset ≤ m.whole.stop.offset := by
  have behind {m : Match} {p : Cursor} {s : Text} (found : r.Yields p (some m))
      (pass : p.Passes s q) :
      (m.whole.start.offset ≤ q.offset ∧ q.offset ≤ m.whole.stop.offset) ∨
        m.whole.stop.offset < q.offset ∧ ∃ u, m.whole.stop.Passes u q := by
    have first := found.isEarliest
    have after := Nat.le_of_not_lt fun before => first.noneBefore s q marks stop pass before reads
    by_cases inside : q.offset ≤ m.whole.stop.offset
    · exact .inl ⟨after, inside⟩
    · obtain ⟨t, pass'⟩ := first.passes_stop
      exact .inr ⟨by omega, pass'.of_offset_le pass (by omega)⟩
  induction h generalizing s with
  | vain found => exact absurd reads (found.noneFrom s q marks stop pass)
  | @full occupied p m rest found _ _ ih =>
    rcases behind found pass with touched | ⟨less, u, further⟩
    · exact .inr ⟨m, List.mem_cons_self, touched⟩
    · rcases ih further with ⟨-, rfl⟩ | ⟨m', later, touched⟩
      · exact absurd less (Nat.lt_irrefl _)
      · exact .inr ⟨m', List.mem_cons_of_mem m later, touched⟩
  | @empty occupied p m rest found _ _ atEnd onward ih =>
    rcases behind found pass with touched | ⟨less, u, further⟩
    · exact .inr ⟨m, List.mem_cons_self, touched⟩
    · obtain ⟨c, next, v, step, further⟩ := further.exists_next less
      rcases ih c next step further with ⟨never, -⟩ | ⟨m', later, touched⟩
      · contradiction
      · exact .inr ⟨m', List.mem_cons_of_mem m later, touched⟩
  | @passed p m rest _ _ _ atEnd onward ih =>
    by_cases here : q.offset = p.offset
    · exact .inl ⟨rfl, pass.eq_of_offset (.refl p) here⟩
    · have le := pass.offset_le
      obtain ⟨c, next, v, step, further⟩ := pass.exists_next (by omega)
      rcases ih c next step further with ⟨never, -⟩ | touched
      · contradiction
      · exact .inr touched

end Sweeps

/-! ## The search -/

variable {text : Text}

theorem fuel_le_of_passes {s : Text} (pass : p.Passes s q) :
    r.automaton.fuel q.after ≤ r.automaton.fuel p.after := by
  have le : Text.utf8Size q.after ≤ Text.utf8Size p.after := by
    rw [pass.after, Text.utf8Size_append]
    exact Nat.le_add_left _ _
  unfold Automaton.fuel
  exact Nat.add_le_add_right
    (Nat.mul_le_mul_left 2 (Nat.mul_le_mul_left _ (Nat.add_le_add_right le 1))) 1

/-- A search for all matches sweeps the text behind a place, if it has time and room enough. -/
theorem matchesFrom_sweeps {fuel limit : Nat} (enough : r.automaton.fuel p.after ≤ fuel)
    (room : p.after.length < limit) :
    r.Sweeps occupied p (r.automaton.matchesFrom fuel limit occupied p) := by
  induction limit generalizing occupied p with
  | zero => contradiction
  | succ limit ih =>
    have atEnd {p : Cursor} (text : p.after = []) :
        (p.next?.map (r.automaton.matchesFrom fuel limit false)).getD [] = [] := by
      simp [Cursor.next?, text]
    have onward {p : Cursor} (enough : r.automaton.fuel p.after ≤ fuel)
        (room : p.after.length < limit + 1) (c : Char) (next : Cursor) (step : p.Passes [c] next) :
        r.Sweeps false next
          ((p.next?.map (r.automaton.matchesFrom fuel limit false)).getD []) := by
      have here : p.next? = some next := by
        obtain ⟨before, after, offset⟩ := next
        obtain ⟨rfl, text, rfl⟩ := step
        simp only [List.cons_append, List.nil_append] at text
        simp [Cursor.next?, text]
      rw [here]
      refine ih (Nat.le_trans (fuel_le_of_passes step) enough) ?_
      have := step.length_after
      simp only [List.length_singleton] at this
      omega
    simp only [Automaton.matchesFrom]
    cases search : r.automaton.firstFrom? fuel p with
    | none => exact .vain ⟨fuel, enough, search⟩
    | some m =>
      have found : r.Yields p (some m) := ⟨fuel, enough, search⟩
      obtain ⟨s, pass⟩ := found.isEarliest.passes
      obtain ⟨t, pass'⟩ := found.isEarliest.passes_stop
      have enough' := Nat.le_trans (fuel_le_of_passes pass') enough
      have shorter := pass'.length_after
      cases size : m.whole.isEmpty with
      | true =>
        simp only [size, if_true]
        split
        · rename_i blocked
          obtain ⟨rfl, here⟩ := blocked
          exact .passed found size here atEnd (onward enough room)
        · rename_i free
          exact .empty found size (fun isOccupied here => free ⟨isOccupied, here⟩) atEnd
            (onward enough' (by omega))
      | false =>
        simp only [size, Bool.false_eq_true, if_false]
        obtain ⟨c, u, inside⟩ := found.isEarliest.isMatch.passes_cons size
        have first := pass.length_after
        have second := inside.length_after
        simp only [List.length_cons] at second
        exact .full found size (ih enough' (by omega))

/-- A search for all matches sweeps the text. -/
theorem allMatches_sweeps (r : Regex) (text : Text) :
    r.Sweeps false (Cursor.start text) (r.allMatches text) :=
  matchesFrom_sweeps (Nat.le_refl _) (Nat.lt_succ_self _)

/-- The first match is the head of all matches. -/
theorem head?_allMatches (r : Regex) (text : Text) :
    (r.allMatches text).head? = r.first? text := by
  simp only [allMatches, first?, Automaton.matchesFrom]
  cases r.automaton.firstFrom? (r.automaton.fuel text) (Cursor.start text) with
  | none => rfl
  | some m =>
    cases size : m.whole.isEmpty with
    | true => simp [size]
    | false => simp [size]

/-- There are no matches just if the term reads nothing anywhere. -/
theorem allMatches_eq_nil_iff : r.allMatches text = [] ↔ r.NoneFrom (Cursor.start text) := by
  rw [← List.head?_eq_none_iff, head?_allMatches, first?_eq_none_iff]

/-! ## Terms that cannot read nothing -/

/-- What a search for all matches does for a term that cannot read nothing: each match is what a search
finds behind the match before it, and a search behind the last one is in vain. Each search has time
enough. -/
inductive Scans (r : Regex) : Cursor → List Match → Prop where
  | nil {p : Cursor} {fuel : Nat} : r.automaton.fuel p.after ≤ fuel →
      r.automaton.firstFrom? fuel p = none → Scans r p []
  | cons {p : Cursor} {fuel : Nat} {m : Match} {rest : List Match} :
      r.automaton.fuel p.after ≤ fuel → r.automaton.firstFrom? fuel p = some m →
      Scans r m.whole.stop rest → Scans r p (m :: rest)

/-- A term that cannot read nothing reads something. -/
theorem Reads.ne_nil {marks : Marks} {t : Text} (proper : r.canReadNothing = false)
    (h : r.Reads p marks q) (pass : p.Passes t q) : t ≠ [] := by
  induction r generalizing p marks q t with
  | text u =>
    obtain rfl := pass.unique h.1
    simpa [canReadNothing] using proper
  | char k =>
    obtain ⟨c, -, pass', -⟩ := h
    simp [pass.unique pass']
  | look l => contradiction
  | seq a b iha ihb =>
    obtain ⟨mid, first, second, ha, hb, -⟩ := h
    obtain ⟨s, hs⟩ := ha.passes
    obtain ⟨u, hu⟩ := hb.passes
    obtain rfl := pass.unique (hs.trans hu)
    rcases Bool.and_eq_false_iff.1 proper with first | second
    · exact List.append_ne_nil_of_left_ne_nil (iha first ha hs) u
    · exact List.append_ne_nil_of_right_ne_nil s (ihb second hb hu)
  | alt a b iha ihb =>
    obtain ⟨first, second⟩ := Bool.or_eq_false_iff.1 proper
    rcases h with h | h
    · exact iha first h pass
    · exact ihb second h pass
  | group n r ih =>
    obtain ⟨inner, h, -⟩ := h
    exact ih proper h pass
  | repeated r least most greedy ih =>
    obtain ⟨required, inside⟩ := Bool.or_eq_false_iff.1 proper
    obtain ⟨n, enough, -, ways⟩ := h
    cases n with
    | zero =>
      obtain rfl := Nat.le_zero.1 enough
      contradiction
    | succ n =>
      obtain ⟨mid, first, second, round, others, -⟩ := ways
      obtain ⟨s, hs⟩ := round.passes
      obtain ⟨u, hu⟩ := Reading.passes_times Reads.passes others
      obtain rfl := pass.unique (hs.trans hu)
      exact List.append_ne_nil_of_left_ne_nil (ih inside round hs) u

theorem Matches.not_isEmpty (proper : r.canReadNothing = false) (h : r.Matches m) :
    m.whole.isEmpty = false := by
  obtain ⟨t, inside⟩ := h.passes
  obtain ⟨marks, reads, -⟩ := h.reads
  have size : Text.utf8Size t ≠ 0 := mt Text.utf8Size_eq_zero_iff.1 (reads.ne_nil proper inside)
  rw [Extent.isEmpty, inside.offset, beq_eq_false_iff_ne]
  omega

/-- A term that cannot read nothing has no empty matches, so no match is passed over. -/
theorem Sweeps.scans (h : r.Sweeps occupied p ms) (proper : r.canReadNothing = false) :
    r.Scans p ms := by
  have full {m : Match} {p : Cursor} (found : r.Yields p (some m)) : m.whole.isEmpty ≠ true :=
    Bool.eq_false_iff.1 (found.isEarliest.isMatch.not_isEmpty proper)
  induction h with
  | vain found =>
    obtain ⟨fuel, enough, search⟩ := found
    exact .nil enough search
  | full found _ _ ih =>
    obtain ⟨fuel, enough, search⟩ := found
    exact .cons enough search ih
  | empty found none => exact absurd none (full found)
  | passed found none => exact absurd none (full found)

/-- All matches of a term that cannot read nothing are found. -/
theorem allMatches_scans (proper : r.canReadNothing = false) :
    r.Scans (Cursor.start text) (r.allMatches text) :=
  (allMatches_sweeps r text).scans proper

end Regex

end HookGraft

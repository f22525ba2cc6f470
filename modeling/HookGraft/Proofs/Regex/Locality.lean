import HookGraft.Proofs.Regex.Completeness
import HookGraft.Proofs.Regex.Part

/-!
# What a search depends on

What a search finds at a place depends on the text that is read there, and on nothing else: neither
on what lies around that text, as long as the term holds no condition on places, nor on what has been
seen in vain before.

## Main definitions

* `Automaton.Shadow`: an exploration that leaves some threads of another one out
* `Regex.Prefers`: the match that a term prefers at the beginning of a text

## Main results

* `Automaton.Shadow.Together.exists_explore`: what one exploration finds, the other one finds
* `Regex.firstFrom?_within`: what a search finds is what the term prefers in the text that is read
* `Regex.Prefers.unique`: there is one match that a term prefers
-/

namespace HookGraft

namespace Automaton

variable {a : Automaton} {origin fuel : Nat} {t u final : Thread} {p : Cursor}
  {seen seen' seen₁ : BitSet} {waiting : List Thread}

/-! ## Time -/

/-- What is found is found as well if there is more time. -/
theorem explore_of_le {more : Nat} (le : fuel ≤ more)
    (h : a.explore origin fuel waiting seen = (some t, seen')) :
    a.explore origin more waiting seen = (some t, seen') := by
  induction fuel generalizing more waiting seen with
  | zero => simp [explore] at h
  | succ fuel ih =>
    obtain ⟨more, rfl⟩ := Nat.exists_eq_add_of_le' (Nat.le_trans (Nat.succ_le_succ fuel.zero_le) le)
    have le' : fuel ≤ more := by omega
    cases waiting with
    | nil => simp [explore] at h
    | cons u rest =>
      simp only [explore] at h ⊢
      split at h
      · rename_i known
        rw [if_pos known]
        exact ih le' h
      · rename_i new
        rw [if_neg new]
        split at h
        · rename_i ends
          rw [if_pos ends]
          exact h
        · rename_i inside
          rw [if_neg inside]
          exact ih le' h

/-- What is found does not depend on the time. -/
theorem explore_unique {fuel' : Nat}
    (h : a.explore origin fuel waiting seen = (some t, seen₁))
    (h' : a.explore origin fuel' waiting seen = (some u, seen')) : t = u := by
  have one := explore_of_le (Nat.le_max_left fuel fuel') h
  have other := explore_of_le (Nat.le_max_right fuel fuel') h'
  have same := one.symm.trans other
  exact Option.some.inj (Prod.mk.inj same).1

/-- Threads that have been seen are passed over. -/
theorem explore_append (known : ∀ t ∈ waiting, seen.contains (a.key origin t) = true)
    (more : List Thread) :
    a.explore origin (fuel + waiting.length) (waiting ++ more) seen =
      a.explore origin fuel more seen := by
  induction waiting with
  | nil => rfl
  | cons t rest ih =>
    obtain ⟨here, others⟩ := List.forall_mem_cons.1 known
    rw [List.length_cons, ← Nat.add_assoc, List.cons_append, explore, if_pos here]
    exact ih others

/-! ## Explorations that leave threads out -/

/-- How one exploration follows another one: which threads of the other it follows, and for which of
them each of its own threads stands. -/
structure Shadow (a : Automaton) where
  /-- where the exploration that is followed counts places from -/
  origin : Nat
  /-- where the one that follows counts places from -/
  ownOrigin : Nat
  /-- the threads of the exploration that is followed -/
  isThread : Thread → Prop
  /-- the threads of the one that follows -/
  isOwn : Thread → Prop
  keep : Thread → Bool
  image : Thread → Thread
  isThread_onward : ∀ t, isThread t → ∀ u ∈ a.onward t, isThread u
  isOwn_onward : ∀ t, isOwn t → ∀ u ∈ a.onward t, isOwn u
  isThread_image : ∀ t, isOwn t → isThread (image t)
  step_image : ∀ t, (image t).step = t.step
  /-- no thread comes back that has been left out -/
  leaves : ∀ t, isThread t → keep t = false → ∀ u ∈ a.onward t, keep u = false
  onward_image : ∀ t, isOwn t → keep (image t) = true →
    (a.onward (image t)).filter keep = ((a.onward t).map image).filter keep
  key_image : ∀ t u, isOwn t → isOwn u →
    (a.key origin (image t) = a.key origin (image u) ↔ a.key ownOrigin t = a.key ownOrigin u)
  keep_of_key : ∀ t u, isThread t → isThread u → a.key origin t = a.key origin u → keep t = keep u

namespace Shadow

/-- How far two explorations have come, one of which follows the other. -/
structure Together (s : a.Shadow) (waiting own : List Thread) (seen ownSeen : BitSet) : Prop where
  threads : ∀ t ∈ waiting, s.isThread t
  owns : ∀ t ∈ own, s.isOwn t
  same : waiting.filter s.keep = (own.map s.image).filter s.keep
  known : ∀ t, s.isOwn t → s.keep (s.image t) = true →
    seen.contains (a.key s.origin (s.image t)) = ownSeen.contains (a.key s.ownOrigin t)
  /-- what is left out is not entered -/
  left : ∀ t, s.isOwn t → s.keep (s.image t) = false →
    ownSeen.contains (a.key s.ownOrigin t) = true

namespace Together

variable {s : a.Shadow} {own : List Thread} {ownSeen : BitSet}

/-- A thread that is not kept need not wait. -/
theorem drop (h : s.Together (t :: waiting) own seen ownSeen) (out : s.keep t = false) :
    s.Together waiting own seen ownSeen where
  threads := fun u member => h.threads u (List.mem_cons_of_mem t member)
  owns := h.owns
  same := by
    have same := h.same
    rwa [List.filter_cons_of_neg (by simp [out])] at same
  known := h.known
  left := h.left

/-- A thread that is not kept makes none wait that is kept. -/
theorem expand (h : s.Together (t :: waiting) own seen ownSeen) (out : s.keep t = false) :
    s.Together (a.onward t ++ waiting) own (seen.insert (a.key s.origin t)) ownSeen where
  threads := by
    intro u member
    have here := h.threads t List.mem_cons_self
    rcases List.mem_append.1 member with next | other
    · exact s.isThread_onward t here u next
    · exact (h.drop out).threads u other
  owns := h.owns
  same := by
    have here := h.threads t List.mem_cons_self
    have none : (a.onward t).filter s.keep = [] :=
      List.filter_eq_nil_iff.2 fun u next => by simp [s.leaves t here out u next]
    rw [List.filter_append, none, List.nil_append]
    exact (h.drop out).same
  known := by
    intro u isOwn kept
    have other : a.key s.origin t ≠ a.key s.origin (s.image u) := by
      intro same
      have alike := s.keep_of_key t (s.image u) (h.threads t List.mem_cons_self)
        (s.isThread_image u isOwn) same
      rw [out, kept] at alike
      contradiction
    rw [BitSet.contains_insert, decide_eq_false other, Bool.false_or]
    exact h.known u isOwn kept
  left := h.left

/-- A thread that is kept stands for one that waits, behind others that have been seen. -/
theorem split (h : s.Together (t :: waiting) own seen ownSeen) (kept : s.keep t = true) :
    ∃ passed u rest, own = passed ++ u :: rest ∧ s.image u = t ∧
      (∀ v ∈ passed, ownSeen.contains (a.key s.ownOrigin v) = true) ∧
      s.Together waiting rest seen ownSeen := by
  have same := h.same
  rw [List.filter_cons_of_pos kept, eq_comm, List.filter_eq_cons_iff] at same
  obtain ⟨first, last, parts, out, -, behind⟩ := same
  obtain ⟨passed, others, rfl, rfl, others'⟩ := List.map_eq_append_iff.1 parts
  obtain ⟨u, rest, rfl, rfl, rfl⟩ := List.map_eq_cons_iff.1 others'
  refine ⟨passed, u, rest, rfl, rfl, ?_, ?_⟩
  · intro v member
    have left := out (s.image v) (List.mem_map_of_mem member)
    exact h.left v (h.owns v (List.mem_append_left _ member)) (by simpa using left)
  · exact {
      threads := fun v member => h.threads v (List.mem_cons_of_mem _ member)
      owns := fun v member =>
        h.owns v (List.mem_append_right passed (List.mem_cons_of_mem u member))
      same := behind.symm
      known := h.known
      left := h.left }

/-- A thread and the one that it stands for make the same threads wait. -/
theorem onward (h : s.Together waiting own seen ownSeen) (isOwn : s.isOwn t)
    (kept : s.keep (s.image t) = true) :
    s.Together (a.onward (s.image t) ++ waiting) (a.onward t ++ own)
      (seen.insert (a.key s.origin (s.image t))) (ownSeen.insert (a.key s.ownOrigin t)) where
  threads := by
    intro u member
    rcases List.mem_append.1 member with next | other
    · exact s.isThread_onward (s.image t) (s.isThread_image t isOwn) u next
    · exact h.threads u other
  owns := by
    intro u member
    rcases List.mem_append.1 member with next | other
    · exact s.isOwn_onward t isOwn u next
    · exact h.owns u other
  same := by
    rw [List.filter_append, List.map_append, List.filter_append, s.onward_image t isOwn kept, h.same]
  known := by
    intro u isOwn' kept'
    rw [BitSet.contains_insert, BitSet.contains_insert, h.known u isOwn' kept',
      decide_eq_decide.2 (s.key_image t u isOwn isOwn')]
  left := by
    intro u isOwn' out
    rw [BitSet.contains_insert, h.left u isOwn' out, Bool.or_true]

/-- What an exploration finds is found as well by one that follows it, unless it is left out. -/
theorem exists_explore (h : s.Together waiting own seen ownSeen)
    (found : a.explore s.origin fuel waiting seen = (some final, seen'))
    (kept : s.keep final = true) : ∃ fuel' t seen₁, s.image t = final ∧
      a.explore s.ownOrigin fuel' own ownSeen = (some t, seen₁) := by
  induction fuel generalizing waiting own seen ownSeen with
  | zero => simp [explore] at found
  | succ fuel ih =>
    cases waiting with
    | nil => simp [explore] at found
    | cons t rest =>
      simp only [explore] at found
      cases here : s.keep t with
      | false =>
        split at found
        · exact ih (h.drop here) found
        · split at found
          · obtain rfl := Option.some.inj (Prod.mk.inj found).1
            rw [here] at kept
            contradiction
          · exact ih (h.expand here) found
      | true =>
        obtain ⟨passed, u, rest', rfl, rfl, old, behind⟩ := h.split here
        have isOwn : s.isOwn u := h.owns u (List.mem_append_right passed List.mem_cons_self)
        suffices later : ∃ fuel' t seen₁, s.image t = final ∧
            a.explore s.ownOrigin fuel' (u :: rest') ownSeen = (some t, seen₁) by
          obtain ⟨fuel', t, seen₁, isFinal, found'⟩ := later
          exact ⟨fuel' + passed.length, t, seen₁, isFinal, (explore_append old _).trans found'⟩
        rw [h.known u isOwn here, s.step_image] at found
        split at found
        · rename_i known
          obtain ⟨fuel', t, seen₁, isFinal, found'⟩ := ih behind found
          refine ⟨fuel' + 1, t, seen₁, isFinal, ?_⟩
          rw [explore, if_pos known]
          exact found'
        · rename_i new
          split at found
          · rename_i ends
            refine ⟨1, u, ownSeen, Option.some.inj (Prod.mk.inj found).1, ?_⟩
            rw [explore, if_neg new, if_pos ends]
          · rename_i inside
            obtain ⟨fuel', t, seen₁, isFinal, found'⟩ := ih (behind.onward isOwn here) found
            refine ⟨fuel' + 1, t, seen₁, isFinal, ?_⟩
            rw [explore, if_neg new, if_neg inside]
            exact found'

end Together

end Shadow

/-! ## What has been seen in vain -/

theorem Run.step_final {n : Nat} (run : a.Run n t final) : final.step = a.steps.size := by
  induction run with
  | stop ends => exact ends
  | step _ _ ih => exact ih

theorem Admits.run {n : Nat} (h : a.Admits p t) (bounded : a.Bounded) (run : a.Run n t final) :
    a.Admits p final := by
  induction run with
  | stop => exact h
  | step next _ ih => exact ih (h.onward bounded next)

/-- An exploration that does not enter what has been seen in vain follows one that does. -/
def Shadow.unseen (bounded : a.Bounded) (closed : a.Closed p seen []) : a.Shadow where
  origin := p.offset
  ownOrigin := p.offset
  isThread := a.Admits p
  isOwn := a.Admits p
  keep t := !seen.contains (a.key p.offset t)
  image := id
  isThread_onward _ h _ next := h.onward bounded next
  isOwn_onward _ h _ next := h.onward bounded next
  isThread_image _ h := h
  step_image _ := rfl
  leaves := by
    intro t admits known u next
    rw [Bool.not_eq_false'] at known ⊢
    exact ((closed t admits known).2 u next).resolve_right List.not_mem_nil
  onward_image := by
    intro t _ _
    rw [List.map_id]
    rfl
  key_image _ _ _ _ := Iff.rfl
  keep_of_key := by
    intro t u _ _ same
    rw [same]

/-- What has been seen in vain makes no difference. -/
theorem explore_of_closed (bounded : a.Bounded) (enough : a.fuel p.after ≤ fuel)
    (closed : a.Closed p seen []) (admits : a.Admits p t)
    (found : a.explore p.offset fuel [t] seen = (some final, seen')) :
    ∃ seen₁, a.explore p.offset fuel [t] .empty = (some final, seen₁) := by
  obtain ⟨n, u, member, run⟩ := run_of_explore found
  obtain rfl := List.mem_singleton.1 member
  cases fresh : a.explore p.offset fuel [u] .empty with
  | mk result seen₁ =>
    cases result with
    | none =>
      obtain ⟨closed', known⟩ := Closed.vain (a.closed_empty p []) bounded enough admits fresh
      exact absurd run (closed'.not_run bounded admits known)
    | some other =>
      obtain ⟨n', v, member', run'⟩ := run_of_explore fresh
      obtain rfl := List.mem_singleton.1 member'
      have kept : (Shadow.unseen bounded closed).keep other = true := by
        have inside : ¬ seen.contains (a.key p.offset other) = true := fun known =>
          (closed other (admits.run bounded run') known).1 run'.step_final
        simpa [Shadow.unseen] using inside
      have start : (Shadow.unseen bounded closed).Together [v] [v] .empty seen := {
        threads := List.forall_mem_singleton.2 admits
        owns := List.forall_mem_singleton.2 admits
        same := rfl
        known := by
          intro w _ kept
          rw [BitSet.contains_empty]
          simpa [Shadow.unseen] using kept.symm
        left := by
          intro w _ out
          simpa [Shadow.unseen] using out }
      obtain ⟨fuel', w, seen₂, rfl, follows⟩ := start.exists_explore fresh kept
      obtain rfl := explore_unique found follows
      exact ⟨seen₁, rfl⟩

/-! ## Conditions on places -/

/-- An automaton without conditions on places. -/
def NoChecks (a : Automaton) : Prop := ∀ (i : Nat) (l : Look), a.steps[i]? ≠ some (Step.check l)

/-! ## Explorations of a part of a text -/

section Window

variable {before text after skipped : Text}

/-- Threads of a part of a text stay in it. -/
theorem Admits.offset_le (h : a.Admits (Cursor.start text) t) :
    t.place.offset ≤ Text.utf8Size text := by
  obtain ⟨s, pass⟩ := h.place
  have whole : text = s ++ t.place.after := pass.after
  have offset : t.place.offset = 0 + Text.utf8Size s := pass.offset
  rw [whole, Text.utf8Size_append]
  omega

/-- A thread of a part of a text is a thread of the whole text. -/
theorem Admits.within (pass : p.Passes skipped (.between before (text ++ after)))
    (h : a.Admits (Cursor.start text) t) : a.Admits p (t.within before after) := by
  obtain ⟨s, inside⟩ := h.place
  have behind : Cursor.Passes (.between before (text ++ after)) s (t.place.within before after) := by
    have there : ((Cursor.start text).within before after).Passes s (t.place.within before after) :=
      inside.within
    rwa [Cursor.start_eq, Cursor.within_between, List.append_nil] at there
  exact ⟨h.step, skipped ++ s, pass.trans behind⟩

/-- What a thread of a part of a text can do, it can do in the whole text, and else it can only leave
the part. -/
theorem onward_within (noChecks : a.NoChecks) (h : a.Admits (Cursor.start text) t)
    {keep : Thread → Bool} (kept : ∀ u, keep u = true ↔
      u.place.offset ≤ Text.utf8Size before + Text.utf8Size text) :
    (a.onward (t.within before after)).filter keep =
      ((a.onward t).map (Thread.within before after)).filter keep := by
  obtain ⟨i, place, marks⟩ := t
  cases here : a.steps[i]? with
  | none => simp [onward, Thread.within, Marks.within, here]
  | some step =>
    cases step with
    | check l => exact absurd here (noChecks i l)
    | mark n side => simp [onward, Thread.within, Marks.within, here]
    | jump target => simp [onward, Thread.within, Marks.within, here]
    | fork first second => simp [onward, Thread.within, Marks.within, here]
    | read k =>
      obtain ⟨behind, ahead, offset⟩ := place
      cases ahead with
      | cons c rest =>
        by_cases member : k.contains c = true
        · simp [onward, Thread.within, Cursor.within, here, member, Nat.add_assoc]
        · simp [onward, Thread.within, Cursor.within, here, member]
      | nil =>
        obtain ⟨s, pass⟩ := h.place
        have whole : text = s ++ [] := pass.after
        have stop : offset = 0 + Text.utf8Size s := pass.offset
        rw [List.append_nil] at whole
        subst whole
        cases after with
        | nil => simp [onward, Thread.within, Cursor.within, here]
        | cons c rest =>
          have size := c.utf8Size_pos
          by_cases member : k.contains c = true
          · have out (marks : Marks) : keep ⟨i + 1, ⟨c :: (behind ++ before.reverse), rest,
                Text.utf8Size before + offset + c.utf8Size⟩, marks⟩ = false := by
              rw [Bool.eq_false_iff, ne_eq, kept]
              simp only
              omega
            simp [onward, Thread.within, Cursor.within, here, member, out]
          · simp [onward, Thread.within, Cursor.within, here, member]

/-- An exploration of a part of a text follows one of the whole text. -/
def Shadow.window (bounded : a.Bounded) (noChecks : a.NoChecks)
    (pass : p.Passes skipped (.between before (text ++ after))) : a.Shadow where
  origin := p.offset
  ownOrigin := 0
  isThread := a.Admits p
  isOwn := a.Admits (Cursor.start text)
  keep t := decide (t.place.offset ≤ Text.utf8Size before + Text.utf8Size text)
  image := Thread.within before after
  isThread_onward _ h _ next := h.onward bounded next
  isOwn_onward _ h _ next := h.onward bounded next
  isThread_image _ h := h.within pass
  step_image _ := rfl
  leaves := by
    intro t admits out u next
    have := offset_le_of_onward next
    rw [decide_eq_false_iff_not] at out ⊢
    omega
  onward_image t h _ := onward_within noChecks h fun u => decide_eq_true_iff
  key_image := by
    intro t u admits admits'
    constructor
    · intro same
      obtain ⟨step, place⟩ := (admits.within pass).eq_of_key (admits'.within pass) same
      have offset : Text.utf8Size before + t.place.offset = Text.utf8Size before + u.place.offset :=
        congrArg Cursor.offset place
      have step : t.step = u.step := step
      rw [key, key, step, Nat.add_left_cancel offset]
    · intro same
      obtain ⟨step, place⟩ := admits.eq_of_key admits' same
      simp only [key, Thread.within, step, place]
  keep_of_key := by
    intro t u admits admits' same
    obtain ⟨-, place⟩ := admits.eq_of_key admits' same
    rw [place]

/-- What is found without leaving a part of a text is found in this part alone. -/
theorem explore_window (bounded : a.Bounded) (noChecks : a.NoChecks)
    (pass : p.Passes skipped (.between before (text ++ after)))
    (found : a.explore p.offset fuel [⟨0, .between before (text ++ after), []⟩] .empty =
      (some final, seen'))
    (fits : final.place.offset ≤ Text.utf8Size before + Text.utf8Size text) :
    ∃ fuel' t seen₁, t.within before after = final ∧
      a.explore 0 fuel' [⟨0, Cursor.start text, []⟩] .empty = (some t, seen₁) := by
  have own : a.Admits (Cursor.start text) ⟨0, Cursor.start text, []⟩ := a.admits_start (.refl _)
  have image : Thread.within before after ⟨0, Cursor.start text, []⟩ =
      ⟨0, .between before (text ++ after), []⟩ := by
    rw [Cursor.start_eq, Thread.within, Cursor.within_between, List.append_nil]
    rfl
  have start : (Shadow.window bounded noChecks pass).Together
      [⟨0, .between before (text ++ after), []⟩] [⟨0, Cursor.start text, []⟩] .empty .empty := {
    threads := List.forall_mem_singleton.2 (image ▸ own.within pass)
    owns := List.forall_mem_singleton.2 own
    same := by
      rw [List.map_singleton]
      exact congrArg (fun t => [t].filter _) image.symm
    known := by
      intro t _ _
      rw [BitSet.contains_empty, BitSet.contains_empty]
    left := by
      intro t admits out
      have inside := Admits.offset_le admits
      have offset : (t.within before after).place.offset =
        Text.utf8Size before + t.place.offset := rfl
      have out : ¬ (t.within before after).place.offset ≤
        Text.utf8Size before + Text.utf8Size text := of_decide_eq_false out
      omega }
  exact start.exists_explore found (decide_eq_true fits)

end Window

/-! ## Searches -/

/-- A search finds what the exploration at one place finds, with what has been seen in vain. -/
theorem exists_explore_of_searchFrom? {r : Regex} {offset : Nat} {before after s : Text} {m : Match}
    (enough : r.automaton.fuel p.after ≤ fuel) (bounded : r.automaton.Bounded)
    (pass : p.Passes s ⟨before, after, offset⟩) (closed : r.automaton.Closed p seen [])
    (found : r.automaton.searchFrom? p.offset fuel seen before offset after = some m) :
    ∃ seen₁ t seen₂, r.automaton.Closed p seen₁ [] ∧ (∃ skipped, p.Passes skipped m.whole.start) ∧
      r.automaton.explore p.offset fuel [⟨0, m.whole.start, []⟩] seen₁ = (some t, seen₂) ∧
      m = Match.ofThread r.groupCount m.whole.start t := by
  induction after generalizing seen before offset s with
  | nil =>
    simp only [searchFrom?, Option.map_eq_some_iff] at found
    obtain ⟨t, here, rfl⟩ := found
    exact ⟨seen, t, _, closed, ⟨s, pass⟩, Prod.ext here rfl, rfl⟩
  | cons c rest ih =>
    simp only [searchFrom?] at found
    split at found
    · rename_i t seen' here
      obtain rfl := Option.some.inj found
      exact ⟨seen, t, seen', closed, ⟨s, pass⟩, here, rfl⟩
    · rename_i seen' here
      obtain ⟨closed', -⟩ :=
        closed.vain bounded enough (r.automaton.admits_start pass) here
      exact ih (pass.trans (.single rfl)) closed' found

end Automaton

/-! ## Terms -/

namespace Regex

theorem check_ne_loop {l : Look} {greedy : Bool} {again exit : Nat} :
    Step.check l ≠ .loop greedy again exit := by
  cases greedy <;> simp [Step.loop]

section Repetition

variable {steps : Nat → List Step} {size index : Nat} {greedy : Bool} {l : Look}
  (none : ∀ i, Step.check l ∉ steps i)
include none

theorem check_not_mem_exactly (n : Nat) :
    Step.check l ∉ Repetition.exactly steps size n index := by
  induction n generalizing index with
  | zero => simp [Repetition.exactly]
  | succ n ih => simp [Repetition.exactly, none, ih]

theorem check_not_mem_atMost (exit n : Nat) :
    Step.check l ∉ Repetition.atMost steps size greedy exit n index := by
  induction n generalizing index with
  | zero => simp [Repetition.atMost]
  | succ n ih => simp [Repetition.atMost, none, ih, check_ne_loop]

end Repetition

/-- The steps of a term without conditions on places check none. -/
theorem check_not_mem_layout {r : Regex} (noLook : r.hasLook = false) (l : Look) (index : Nat) :
    Step.check l ∉ r.layout index := by
  induction r generalizing index with
  | text t => simp [layout]
  | char k => simp [layout]
  | look l => contradiction
  | seq a b iha ihb =>
    obtain ⟨first, second⟩ := Bool.or_eq_false_iff.1 noLook
    simp [layout, iha first, ihb second]
  | alt a b iha ihb =>
    obtain ⟨first, second⟩ := Bool.or_eq_false_iff.1 noLook
    simp [layout, iha first, ihb second]
  | group n r ih => simp [layout, ih noLook]
  | repeated r least most greedy ih =>
    have part := ih noLook
    cases most with
    | some most =>
      rw [layout, List.mem_append, not_or]
      exact ⟨check_not_mem_exactly part _, check_not_mem_atMost part _ _⟩
    | none =>
      cases least with
      | zero =>
        rw [layout]
        cases r.canReadNothing <;> simp [Repetition.anyTimes, part, check_ne_loop]
      | succ least =>
        rw [layout, List.mem_append, not_or]
        exact ⟨check_not_mem_exactly part _, by simp [Repetition.atLeastOnce, part, check_ne_loop]⟩

theorem noChecks_automaton {r : Regex} (noLook : r.hasLook = false) : r.automaton.NoChecks := by
  intro i l here
  rw [automaton, List.getElem?_toArray] at here
  exact check_not_mem_layout noLook l 0 (List.mem_of_getElem? here)

/-- The match that a term prefers at the beginning of a text. -/
def Prefers (r : Regex) (t : Text) (m : Match) : Prop :=
  ∃ fuel u seen, r.automaton.explore 0 fuel [⟨0, Cursor.start t, []⟩] .empty = (some u, seen) ∧
    m = Match.ofThread r.groupCount (Cursor.start t) u

variable {r : Regex} {m m' : Match} {p : Cursor} {before t after : Text} {fuel : Nat}

/-- There is one match that a term prefers. -/
theorem Prefers.unique (h : r.Prefers t m) (h' : r.Prefers t m') : m = m' := by
  obtain ⟨fuel, u, seen, found, rfl⟩ := h
  obtain ⟨fuel', u', seen', found', rfl⟩ := h'
  rw [Automaton.explore_unique found found']

theorem Prefers.matches (h : r.Prefers t m) : r.Matches m := by
  obtain ⟨fuel, u, seen, found, rfl⟩ := h
  exact matches_of_explore found

theorem Prefers.start (h : r.Prefers t m) : m.whole.start = Cursor.start t := by
  obtain ⟨fuel, u, seen, found, rfl⟩ := h
  rfl

/-- What groups have read is part of the text. -/
theorem Prefers.inside_group {n : Nat} {e : Extent} (h : r.Prefers t m) (group : m.group? n = some e) :
    e.Inside t := by
  obtain ⟨fuel, u, seen, found, rfl⟩ := h
  obtain ⟨k, v, member, run⟩ := Automaton.run_of_explore found
  obtain rfl := List.mem_singleton.1 member
  have marks {key : Nat × Side} {place : Cursor} (marked : u.marks.lookup key = some place) :
      ∃ s, (Cursor.start t).Passes s place := by
    obtain ⟨first, last, split, -⟩ := List.lookup_eq_some_iff.1 marked
    exact (reads_of_run run).passes_mark (key, place) (by simp [split])
  cases n with
  | zero => contradiction
  | succ n =>
    simp only [Match.group?, Match.ofThread, Option.join_eq_some_iff, List.getElem?_map,
      Option.map_eq_some_iff] at group
    obtain ⟨i, -, ⟨first, last⟩, sides, rfl⟩ := group
    simp only [Thread.group?, Option.pure_def, Option.bind_eq_bind, Option.bind_eq_some_iff,
      Option.some.injEq, Prod.mk.injEq] at sides
    obtain ⟨start, started, stop, stopped, rfl, rfl⟩ := sides
    exact ⟨marks started, marks stopped⟩

/-- What a search finds in a text is what the term prefers in a part that holds what is read. -/
theorem firstFrom?_within (noLook : r.hasLook = false) (enough : r.automaton.fuel p.after ≤ fuel)
    (found : r.automaton.firstFrom? fuel p = some m)
    (start : m.whole.start = .between before (t ++ after))
    (fits : m.whole.stop.offset ≤ Text.utf8Size before + Text.utf8Size t) :
    ∃ m', r.Prefers t m' ∧ m = m'.within before after := by
  have bounded := r.bounded_automaton
  obtain ⟨seen, u, seen', closed, ⟨skipped, pass⟩, explored, eq⟩ :=
    Automaton.exists_explore_of_searchFrom? enough bounded (.refl p)
      (r.automaton.closed_empty p []) found
  have admits := r.automaton.admits_start pass
  obtain ⟨seen₁, fresh⟩ := Automaton.explore_of_closed bounded enough closed admits explored
  have stop : u.place.offset ≤ Text.utf8Size before + Text.utf8Size t := by
    rw [eq] at fits
    exact fits
  rw [start] at pass fresh eq
  obtain ⟨fuel', v, seen₂, rfl, inside⟩ :=
    Automaton.explore_window bounded (noChecks_automaton noLook) pass fresh stop
  refine ⟨_, ⟨fuel', v, seen₂, inside, rfl⟩, ?_⟩
  rw [eq, ← Match.ofThread_within, Cursor.start_eq, Cursor.within_between, List.append_nil]

end Regex

end HookGraft

import HookGraft.Edit
import HookGraft.Proofs.Regex.Run

/-!
# What a search finds

Whatever a search hands back is a text that the pattern reads, with the groups that were marked on
the way. Matches come one behind the other.

## Main definitions

* `Regex.Matches`: a match of a term, wherever it lies
* `Regex.MatchesBehind`: matches one behind the other, from a place on

## Main results

* `Regex.first?_sound`: the first match is a match
* `Regex.allMatches_sound`: all matches are matches, one behind the other
-/

namespace HookGraft

/-! ## Threads that come to the end -/

namespace Automaton

variable {a : Automaton} {origin fuel : Nat} {t : Thread}

/-- A thread that comes to the end began as one of those that were explored. -/
theorem run_of_explore {threads : List Thread} {seen seen' : BitSet}
    (h : a.explore origin fuel threads seen = (some t, seen')) :
    ∃ n, ∃ u ∈ threads, a.Run n u t := by
  induction fuel generalizing threads seen with
  | zero => cases threads <;> simp [explore] at h
  | succ fuel ih =>
    cases threads with
    | nil => simp [explore] at h
    | cons u rest =>
      simp only [explore] at h
      split at h
      · obtain ⟨n, v, member, run⟩ := ih h
        exact ⟨n, v, List.mem_cons_of_mem u member, run⟩
      · split at h
        · rename_i ends
          simp only [Prod.mk.injEq, Option.some.injEq] at h
          obtain ⟨rfl, -⟩ := h
          exact ⟨0, u, List.mem_cons_self, .stop ends⟩
        · obtain ⟨n, v, member, run⟩ := ih h
          rcases List.mem_append.1 member with next | other
          · exact ⟨n + 1, u, List.mem_cons_self, .step next run⟩
          · exact ⟨n, v, List.mem_cons_of_mem u other, run⟩

end Automaton

/-! ## Matches -/

/-- The extent of a group by the last marks of its two sides. -/
def Marks.extent? (marks : Marks) (n : Nat) : Option Extent := do
  return ⟨← marks.lookup (n, .start), ← marks.lookup (n, .stop)⟩

/-- A match of a term: the term reads it, and its groups are those marked on the way. -/
def Regex.Matches (r : Regex) (m : Match) : Prop :=
  ∃ t : Thread, r.Reads m.whole.start t.marks t.place ∧
    m = Match.ofThread r.groupCount m.whole.start t

/-- Matches of a term one behind the other, the first of them at or behind a place. -/
inductive Regex.MatchesBehind (r : Regex) : Cursor → List Match → Prop where
  | nil {p : Cursor} : MatchesBehind r p []
  | cons {p : Cursor} {skipped : Text} {m : Match} {rest : List Match} :
      p.Passes skipped m.whole.start → r.Matches m → MatchesBehind r m.whole.stop rest →
      MatchesBehind r p (m :: rest)

theorem exists_lookup {α β : Type} [BEq α] [LawfulBEq α] {key : α} {entries : List (α × β)}
    (h : key ∈ entries.map Prod.fst) : ∃ value, entries.lookup key = some value := by
  induction entries with
  | nil => contradiction
  | cons entry rest ih =>
    obtain ⟨first, value⟩ := entry
    rw [List.lookup_cons]
    split
    · exact ⟨value, rfl⟩
    · rename_i other
      rcases List.mem_cons.1 h with rfl | member
      · simp at other
      · exact ih member

namespace Regex

variable {r s : Regex} {p q : Cursor} {m : Match} {ms : List Match}

theorem matches_of_explore {origin fuel : Nat} {seen seen' : BitSet} {t : Thread}
    (h : r.automaton.explore origin fuel [⟨0, p, []⟩] seen = (some t, seen')) :
    r.Matches (Match.ofThread r.groupCount p t) := by
  obtain ⟨n, u, member, run⟩ := Automaton.run_of_explore h
  obtain rfl := List.mem_singleton.1 member
  exact ⟨t, reads_of_run run, rfl⟩

/-- A match reads a text. -/
theorem Matches.passes (h : r.Matches m) : ∃ t, m.whole.start.Passes t m.whole.stop := by
  obtain ⟨t, reads, eq⟩ := h
  rw [eq]
  exact reads.passes

/-- A match reads what its term reads, and each of its groups lies between the last two marks that
were left for the group. -/
theorem Matches.reads (h : r.Matches m) : ∃ marks, r.Reads m.whole.start marks m.whole.stop ∧
    ∀ n < r.groupCount, m.group? (n + 1) = marks.extent? (n + 1) := by
  obtain ⟨t, reads, eq⟩ := h
  have stop : m.whole.stop = t.place := by rw [eq, Match.ofThread]
  refine ⟨t.marks, stop ▸ reads, fun n lt => ?_⟩
  rw [eq, Match.group?, Match.ofThread, List.getElem?_map, List.getElem?_range lt]
  cases first : t.marks.lookup (n + 1, .start) <;> cases last : t.marks.lookup (n + 1, .stop) <;>
    simp [Thread.group?, Marks.extent?, first, last]

/-- A group that must take part in a match has read something. -/
theorem Matches.exists_group {n : Nat} (h : r.Matches m) (always : r.alwaysMarks (n + 1) = true) :
    ∃ extent, m.group? (n + 1) = some extent := by
  obtain ⟨marks, reads, groups⟩ := h.reads
  have lookup (side : Side) : ∃ place, marks.lookup (n + 1, side) = some place :=
    exists_lookup (reads.mem_marks always side)
  obtain ⟨start, first⟩ := lookup .start
  obtain ⟨stop, last⟩ := lookup .stop
  refine ⟨⟨start, stop⟩, ?_⟩
  rw [groups n (Reads.le_groupCount always), Marks.extent?, first, last]
  rfl

/-- The marks of a group that holds no others are those of its extent. -/
theorem extent?_group (n : Nat) (p q : Cursor) (others : Marks) :
    Marks.extent? (((n, .stop), q) :: ((n, .start), p) :: others) n = some ⟨p, q⟩ := by
  have other : ((n, Side.start) == (n, Side.stop)) = false :=
    beq_eq_false_iff_ne.2 fun e => Side.noConfusion (Prod.ext_iff.1 e).2
  simp [Marks.extent?, List.lookup_cons, other]

/-- A group around a whole term, which has no groups, reads the whole match. -/
theorem Matches.group_whole {n : Nat} (h : (group (n + 1) r).Matches m)
    (none : r.hasGroup = false) : m.group? (n + 1) = some m.whole := by
  obtain ⟨marks, ⟨inner, reads, rfl⟩, groups⟩ := h.reads
  rw [groups n (Nat.le_max_left (n + 1) r.groupCount), reads.marks_eq_nil none]
  exact extent?_group (n + 1) m.whole.start m.whole.stop []

/-- A group at the beginning of a match. -/
theorem Matches.group_first {n : Nat} (h : (seq (group (n + 1) r) s).Matches m)
    (none : r.hasGroup = false) (none' : s.hasGroup = false) :
    ∃ mid, m.group? (n + 1) = some ⟨m.whole.start, mid⟩ ∧
      r.Reads m.whole.start [] mid ∧ s.Reads mid [] m.whole.stop := by
  obtain ⟨marks, ⟨mid, first, second, ⟨inner, here, rfl⟩, behind, rfl⟩, groups⟩ := h.reads
  obtain rfl := here.marks_eq_nil none
  obtain rfl := behind.marks_eq_nil none'
  have counted : n < (seq (group (n + 1) r) s).groupCount :=
    Reads.le_groupCount (by simp [alwaysMarks])
  refine ⟨mid, ?_, here, behind⟩
  rw [groups n counted]
  exact extent?_group (n + 1) m.whole.start mid []

/-- A group at the end of a match. -/
theorem Matches.group_last {n : Nat} (h : (seq s (group (n + 1) r)).Matches m)
    (none : r.hasGroup = false) :
    ∃ mid marks, m.group? (n + 1) = some ⟨mid, m.whole.stop⟩ ∧
      s.Reads m.whole.start marks mid ∧ r.Reads mid [] m.whole.stop := by
  obtain ⟨marks, ⟨mid, first, second, before, ⟨inner, here, rfl⟩, rfl⟩, groups⟩ := h.reads
  obtain rfl := here.marks_eq_nil none
  have counted : n < (seq s (group (n + 1) r)).groupCount :=
    Reads.le_groupCount (by simp [alwaysMarks])
  refine ⟨mid, first, ?_, before, here⟩
  rw [groups n counted]
  exact extent?_group (n + 1) mid m.whole.stop first

/-- What lies behind a place lies behind any place before it. -/
theorem MatchesBehind.earlier {t : Text} (h : r.MatchesBehind q ms) (pass : p.Passes t q) :
    r.MatchesBehind p ms := by
  cases h with
  | nil => exact .nil
  | cons skipped found rest => exact .cons (pass.trans skipped) found rest

end Regex

namespace Automaton

variable {r : Regex} {origin fuel : Nat} {p : Cursor} {m : Match}

/-- A search from a place finds a match at the place or behind it. -/
theorem searchFrom?_sound {seen : BitSet} {before after : Text} {offset : Nat}
    (h : r.automaton.searchFrom? origin fuel seen before offset after = some m) :
    r.Matches m ∧ ∃ t, Cursor.Passes ⟨before, after, offset⟩ t m.whole.start := by
  induction after generalizing seen before offset with
  | nil =>
    simp only [searchFrom?, Option.map_eq_some_iff] at h
    obtain ⟨t, found, rfl⟩ := h
    exact ⟨Regex.matches_of_explore (Prod.ext found rfl), [], .refl _⟩
  | cons c rest ih =>
    simp only [searchFrom?] at h
    split at h
    · rename_i t seen' found
      obtain rfl := Option.some.inj h
      exact ⟨Regex.matches_of_explore found, [], .refl _⟩
    · obtain ⟨found, t, pass⟩ := ih h
      exact ⟨found, c :: t, (Cursor.Passes.single rfl).trans pass⟩

theorem firstFrom?_sound (h : r.automaton.firstFrom? fuel p = some m) :
    r.Matches m ∧ ∃ t, p.Passes t m.whole.start := searchFrom?_sound h

/-- The matches found from a place on. -/
theorem matchesFrom_sound {limit : Nat} {occupied : Bool} :
    r.MatchesBehind p (r.automaton.matchesFrom fuel limit occupied p) := by
  induction limit generalizing occupied p with
  | zero => exact .nil
  | succ limit ih =>
    have onward (p : Cursor) : r.MatchesBehind p
        ((p.next?.map (r.automaton.matchesFrom fuel limit false)).getD []) := by
      unfold Cursor.next?
      split
      · exact .nil
      · rename_i c rest text
        exact ih.earlier (.single text)
    simp only [matchesFrom]
    split
    · exact .nil
    · rename_i m found
      obtain ⟨isMatch, t, pass⟩ := firstFrom?_sound found
      split
      · split
        · exact onward p
        · exact .cons pass isMatch (onward m.whole.stop)
      · exact .cons pass isMatch ih

end Automaton

namespace Regex

variable {r : Regex} {text : Text} {m : Match}

/-- The first match in a text is a match, some way behind the start of the text. -/
theorem first?_sound (h : r.first? text = some m) :
    r.Matches m ∧ ∃ t, (Cursor.start text).Passes t m.whole.start :=
  Automaton.firstFrom?_sound h

/-- All matches in a text are matches, one behind the other. -/
theorem allMatches_sound : r.MatchesBehind (Cursor.start text) (r.allMatches text) :=
  Automaton.matchesFrom_sound

/-- Each of some matches that come one behind the other lies in the text. -/
theorem MatchesBehind.of_mem {p : Cursor} {ms : List Match} (h : r.MatchesBehind p ms)
    (member : m ∈ ms) : r.Matches m ∧ ∃ t, p.Passes t m.whole.start := by
  induction h with
  | nil => contradiction
  | cons pass found rest ih =>
    rcases List.mem_cons.1 member with rfl | later
    · exact ⟨found, _, pass⟩
    · obtain ⟨isMatch, t, pass'⟩ := ih later
      obtain ⟨s, inside⟩ := found.passes
      exact ⟨isMatch, _, (pass.trans inside).trans pass'⟩

end Regex

end HookGraft

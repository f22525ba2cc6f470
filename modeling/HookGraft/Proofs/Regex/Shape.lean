import HookGraft.Proofs.Regex.Language
import HookGraft.Proofs.Regex.Sweep

/-!
# Terms that stand for a shape

A term without conditions on places stands for a set of texts, its shape: between two places it
reads what lies between them just if this has the shape. So what a search finds can be said by the
shape alone: the first match is the leftmost text of the shape, and nothing is found just if no text
of the shape occurs.

## Main definitions

* `Regex.Describes`: a term that stands for a shape
* `Joined`: texts of some shapes, one behind the other
* `Match.IsLeftmost`: the leftmost text of a shape behind a place
* `Fragments`: texts of a shape from left to right, each behind the one before it

## Main results

* `Regex.Describes.seq`, `Regex.Describes.inOrder`, `Regex.Describes.repeated_char`: the shapes of
  compound terms
* `Regex.Describes.first?_eq_none_iff`, `Regex.Describes.isLeftmost`: what a search finds
* `Regex.Describes.fragments`: what a search for all matches finds
-/

namespace HookGraft

namespace Cursor

variable {p q : Cursor} {s t rest : Text}

/-- Some text behind a place ends at another place. -/
theorem exists_passes (h : p.after = s ++ rest) : ∃ q, p.Passes s q ∧ q.after = rest :=
  ⟨⟨s.reverse ++ p.before, rest, p.offset + Text.utf8Size s⟩, ⟨rfl, h, rfl⟩, rfl⟩

/-- Between the two parts of a text there is a place. -/
theorem Passes.split (h : p.Passes (s ++ t) q) : ∃ mid, p.Passes s mid ∧ mid.Passes t q := by
  have whole : p.after = s ++ (t ++ q.after) := by rw [h.after, List.append_assoc]
  obtain ⟨mid, first, behind⟩ := exists_passes whole
  have before : q.before = t.reverse ++ mid.before := by
    rw [h.before, first.before, List.reverse_append, List.append_assoc]
  have offset : q.offset = mid.offset + Text.utf8Size t := by
    rw [h.offset, first.offset, Text.utf8Size_append, Nat.add_assoc]
  exact ⟨mid, first, before, behind, offset⟩

theorem Passes.length_before (h : p.Passes t q) :
    q.before.length = p.before.length + t.length := by
  rw [h.before, List.length_append, List.length_reverse, Nat.add_comm]

end Cursor

/-- A match that is the leftmost text of a shape behind a place. -/
structure Match.IsLeftmost (m : Match) (shape : Text → Prop) (p : Cursor) : Prop where
  fragment : shape m.whole.text
  inside : m.whole.start.Passes m.whole.text m.whole.stop
  leftmost : ∃ before, p.Passes before m.whole.start ∧
    ∀ b t a, p.after = b ++ t ++ a → shape t → before.length ≤ b.length

/-- Texts of a shape from a place on: each is the leftmost one behind the one before it, and there is
none behind the last. -/
inductive Fragments (shape : Text → Prop) : Cursor → List Match → Prop where
  | nil {p : Cursor} : (∀ t, shape t → ¬ t <:+: p.after) → Fragments shape p []
  | cons {p : Cursor} {m : Match} {rest : List Match} :
      m.IsLeftmost shape p → Fragments shape m.whole.stop rest → Fragments shape p (m :: rest)

variable {shape : Text → Prop} {p : Cursor} {m : Match} {ms : List Match}

theorem Fragments.of_mem (h : Fragments shape p ms) (member : m ∈ ms) : shape m.whole.text := by
  induction h with
  | nil => contradiction
  | cons first _ ih =>
    rcases List.mem_cons.1 member with rfl | later
    · exact first.fragment
    · exact ih later

/-- A fragment lies behind the place, and the text around it is the whole text. -/
theorem Fragments.around (h : Fragments shape p ms) (member : m ∈ ms) :
    p.before.length ≤ m.whole.start.before.length ∧
      m.whole.start.before.reverse ++ m.whole.text ++ m.whole.stop.after =
        p.before.reverse ++ p.after := by
  induction h with
  | nil => contradiction
  | @cons p first rest leftmost _ ih =>
    obtain ⟨before, pass, -⟩ := leftmost.leftmost
    have start := pass.length_before
    have inside := leftmost.inside
    rcases List.mem_cons.1 member with rfl | later
    · exact ⟨by omega, by rw [← inside.whole, pass.around]⟩
    · obtain ⟨behind, whole⟩ := ih later
      have stop := inside.length_before
      exact ⟨by omega, by rw [whole, inside.around, pass.around]⟩

/-- No fragment begins inside another one. -/
theorem Fragments.not_inside {m' : Match} (h : Fragments shape p ms) (member : m ∈ ms)
    (member' : m' ∈ ms) (after : m.whole.start.before.length < m'.whole.start.before.length) :
    m.whole.stop.before.length ≤ m'.whole.start.before.length := by
  induction h with
  | nil => contradiction
  | @cons p first rest leftmost others ih =>
    have stop := leftmost.inside.length_before
    rcases List.mem_cons.1 member with rfl | later <;>
      rcases List.mem_cons.1 member' with rfl | later'
    · omega
    · exact (others.around later').1
    · have := (others.around later).1
      omega
    · exact ih later later'

/-- Every text of the shape begins inside a fragment, or with it. -/
theorem Fragments.covers (h : Fragments shape p ms) {b t a : Text} (whole : p.after = b ++ t ++ a)
    (proper : shape t) : ∃ m ∈ ms, m.whole.start.before.length ≤ p.before.length + b.length ∧
      p.before.length + b.length < m.whole.stop.before.length := by
  induction h generalizing b with
  | nil absent => exact absurd ⟨b, a, whole.symm⟩ (absent t proper)
  | @cons p first rest leftmost _ ih =>
    obtain ⟨before, pass, least⟩ := leftmost.leftmost
    have start := pass.length_before
    have stop := leftmost.inside.length_before
    have le := least b t a whole proper
    by_cases within : p.before.length + b.length < first.whole.stop.before.length
    · exact ⟨first, List.mem_cons_self, by omega, within⟩
    · have split : before ++ first.whole.text ++ first.whole.stop.after = b ++ (t ++ a) := by
        rw [← List.append_assoc b, ← whole, pass.after, leftmost.inside.after, List.append_assoc]
      obtain ⟨more, rfl, behind⟩ : ∃ more, b = before ++ first.whole.text ++ more ∧
          first.whole.stop.after = more ++ (t ++ a) := by
        rcases List.append_eq_append_iff.1 split with ⟨more, same, behind⟩ | ⟨more, same, behind⟩
        · exact ⟨more, same, behind⟩
        · have := congrArg List.length same
          simp only [List.length_append] at this
          obtain rfl : more = [] := List.length_eq_zero_iff.1 (by omega)
          exact ⟨[], by simpa using same.symm, by simpa using behind.symm⟩
      obtain ⟨m, member, le, lt⟩ := ih (by rw [behind, List.append_assoc])
      simp only [List.length_append] at within ⊢
      exact ⟨m, List.mem_cons_of_mem first member, by omega, by omega⟩

/-- Texts of some shapes, one behind the other. -/
def Joined : List (Text → Prop) → Text → Prop
  | [], t => t = []
  | shape :: shapes, t => ∃ s u, shape s ∧ Joined shapes u ∧ t = s ++ u

namespace Regex

/-- A term stands for a shape: between two places it reads what lies between them just if this has
the shape. -/
def Describes (r : Regex) (shape : Text → Prop) : Prop :=
  ∀ p t q, p.Passes t q → ((∃ marks, r.Reads p marks q) ↔ shape t)

namespace Describes

variable {r a b : Regex} {A B shape' : Text → Prop} {k : CharClass} {rs : List Regex}
  {shapes : List (Text → Prop)} {text : Text}

/-! ## Compound terms -/

theorem congr (h : r.Describes shape) (same : ∀ t, shape t ↔ shape' t) : r.Describes shape' :=
  fun p t q pass => (h p t q pass).trans (same t)

protected theorem text (u : Text) : (Regex.text u).Describes (· = u) := by
  intro p t q pass
  constructor
  · rintro ⟨marks, inside, -⟩
    exact pass.unique inside
  · rintro rfl
    exact ⟨[], pass, rfl⟩

protected theorem char (k : CharClass) :
    (Regex.char k).Describes fun t => ∃ c, k.contains c = true ∧ t = [c] := by
  intro p t q pass
  constructor
  · rintro ⟨marks, c, member, inside, -⟩
    exact ⟨c, member, pass.unique inside⟩
  · rintro ⟨c, member, rfl⟩
    exact ⟨[], c, member, pass, rfl⟩

theorem seq (h : a.Describes A) (h' : b.Describes B) :
    (Regex.seq a b).Describes fun t => ∃ s u, A s ∧ B u ∧ t = s ++ u := by
  intro p t q pass
  constructor
  · rintro ⟨marks, mid, first, second, left, right, -⟩
    obtain ⟨s, before⟩ := left.passes
    obtain ⟨u, behind⟩ := right.passes
    exact ⟨s, u, (h p s mid before).1 ⟨first, left⟩, (h' mid u q behind).1 ⟨second, right⟩,
      pass.unique (before.trans behind)⟩
  · rintro ⟨s, u, left, right, rfl⟩
    obtain ⟨mid, before, behind⟩ := pass.split
    obtain ⟨first, left⟩ := (h p s mid before).2 left
    obtain ⟨second, right⟩ := (h' mid u q behind).2 right
    exact ⟨_, mid, first, second, left, right, rfl⟩

theorem group (n : Nat) (h : r.Describes shape) : (Regex.group n r).Describes shape := by
  intro p t q pass
  rw [← h p t q pass]
  constructor
  · rintro ⟨marks, inner, reads, -⟩
    exact ⟨inner, reads⟩
  · rintro ⟨inner, reads⟩
    exact ⟨_, inner, reads, rfl⟩

/-- The parts of a sequence stand one behind the other. -/
theorem inOrder (h : List.Forall₂ Describes rs shapes) :
    (Regex.inOrder rs).Describes (Joined shapes) := by
  induction h with
  | nil => exact Describes.text []
  | @cons r shape rest shapes first others ih =>
    cases others with
    | nil =>
      refine first.congr fun t => ?_
      simp [Joined]
    | cons =>
      rw [Regex.inOrder]
      · exact first.seq ih
      · simp

/-- A sequence whose first part cannot read nothing cannot either. -/
theorem canReadNothing_inOrder (h : r.canReadNothing = false) (rs : List Regex) :
    (Regex.inOrder (r :: rs)).canReadNothing = false := by
  cases rs with
  | nil => exact h
  | cons r' rest =>
    rw [Regex.inOrder]
    · simp [canReadNothing, h]
    · simp

theorem times (h : r.Describes shape) {n : Nat} {p q : Cursor} {t : Text} (pass : p.Passes t q) :
    (∃ marks, r.Reads.times n p marks q) ↔
      ∃ ts : List Text, ts.length = n ∧ (∀ u ∈ ts, shape u) ∧ t = ts.flatten := by
  induction n generalizing p t with
  | zero =>
    constructor
    · rintro ⟨marks, rfl, -⟩
      exact ⟨[], rfl, nofun, pass.unique (.refl q)⟩
    · rintro ⟨ts, none, -, rfl⟩
      obtain rfl := List.length_eq_zero_iff.1 none
      exact ⟨[], pass.eq_of_offset (.refl p) (by simpa using pass.offset), rfl⟩
  | succ n ih =>
    constructor
    · rintro ⟨marks, mid, first, second, round, others, rfl⟩
      obtain ⟨s, here⟩ := round.passes
      obtain ⟨u, behind⟩ := Reading.passes_times Reads.passes others
      obtain ⟨ts, rfl, parts, rfl⟩ := (ih behind).1 ⟨second, others⟩
      have proper := (h p s mid here).1 ⟨first, round⟩
      exact ⟨s :: ts, rfl, List.forall_mem_cons.2 ⟨proper, parts⟩,
        pass.unique (here.trans behind)⟩
    · rintro ⟨ts, size, parts, rfl⟩
      obtain ⟨s, ts, rfl⟩ := List.exists_cons_of_length_eq_add_one size
      obtain ⟨here, later⟩ := List.forall_mem_cons.1 parts
      obtain ⟨mid, before, behind⟩ := pass.split
      obtain ⟨first, round⟩ := (h p s mid before).2 here
      obtain ⟨second, others⟩ := (ih behind).2 ⟨ts, Nat.succ.inj size, later, rfl⟩
      exact ⟨_, mid, first, second, round, others, rfl⟩

/-- A repetition stands for as many texts of the shape as there may be rounds. -/
theorem repeated (h : r.Describes shape) (least : Nat) (most : Option Nat) (greedy : Bool) :
    (Regex.repeated r least most greedy).Describes fun t =>
      ∃ ts : List Text, least ≤ ts.length ∧ (∀ m, most = some m → ts.length ≤ max least m) ∧
        (∀ u ∈ ts, shape u) ∧ t = ts.flatten := by
  intro p t q pass
  constructor
  · rintro ⟨marks, n, enough, fits, ways⟩
    obtain ⟨ts, rfl, parts⟩ := (h.times pass).1 ⟨marks, ways⟩
    exact ⟨ts, enough, fits, parts⟩
  · rintro ⟨ts, enough, fits, parts⟩
    obtain ⟨marks, ways⟩ := (h.times pass).2 ⟨ts, rfl, parts⟩
    exact ⟨marks, ts.length, enough, fits, ways⟩

/-- A repeated class stands for texts of its members. -/
theorem repeated_char (k : CharClass) (least : Nat) (most : Option Nat) (greedy : Bool) :
    (Regex.repeated (.char k) least most greedy).Describes fun t =>
      least ≤ t.length ∧ (∀ m, most = some m → t.length ≤ max least m) ∧
        ∀ c ∈ t, k.contains c = true := by
  refine ((Describes.char k).repeated least most greedy).congr fun t => ?_
  have singles : ∀ ts : List Text, (∀ u ∈ ts, ∃ c, k.contains c = true ∧ u = [c]) →
      ts.flatten.length = ts.length ∧ ∀ c ∈ ts.flatten, k.contains c = true := by
    intro ts rounds
    induction ts with
    | nil => simp
    | cons u ts ih =>
      obtain ⟨⟨c, member, rfl⟩, others⟩ := List.forall_mem_cons.1 rounds
      obtain ⟨size, members⟩ := ih others
      exact ⟨by simp [size], by simpa [member] using members⟩
  constructor
  · rintro ⟨ts, enough, fits, rounds, rfl⟩
    obtain ⟨size, members⟩ := singles ts rounds
    rw [size]
    exact ⟨enough, fits, members⟩
  · rintro ⟨enough, fits, members⟩
    refine ⟨t.map fun c => [c], by simpa using enough, by simpa using fits, ?_, ?_⟩
    · exact List.forall_mem_map.2 fun c member => ⟨c, members c member, rfl⟩
    · rw [← List.flatMap_def, List.flatMap_singleton']

/-! ## Searches -/

theorem matches_text (h : r.Describes shape) (isMatch : r.Matches m) : shape m.whole.text := by
  obtain ⟨t, pass⟩ := isMatch.passes
  obtain ⟨marks, reads, -⟩ := isMatch.reads
  have text : m.whole.text = t := pass.extent_text
  exact (h _ _ _ (text ▸ pass)).1 ⟨marks, reads⟩

/-- A term reads nothing just if no text of its shape occurs. -/
theorem noneFrom_iff (h : r.Describes shape) :
    r.NoneFrom p ↔ ∀ t, shape t → ¬ t <:+: p.after := by
  constructor
  · rintro none t proper ⟨before, after, whole⟩
    rw [List.append_assoc] at whole
    obtain ⟨q, pass, behind⟩ := Cursor.exists_passes whole.symm
    obtain ⟨stop, inside, -⟩ := Cursor.exists_passes behind
    obtain ⟨marks, reads⟩ := (h q t stop inside).2 proper
    exact none before q marks stop pass reads
  · intro none s q marks stop pass reads
    obtain ⟨t, inside⟩ := reads.passes
    refine none t ((h q t stop inside).1 ⟨marks, reads⟩) ⟨s, stop.after, ?_⟩
    rw [pass.after, inside.after, List.append_assoc]

/-- The leftmost match is the leftmost text of the shape. -/
theorem isLeftmost (h : r.Describes shape) {before : Text} (isMatch : r.Matches m)
    (pass : p.Passes before m.whole.start) (first : r.NoneBefore p m.whole.start) :
    m.IsLeftmost shape p := by
  obtain ⟨t, inside⟩ := isMatch.passes
  have text : m.whole.text = t := inside.extent_text
  refine ⟨h.matches_text isMatch, text ▸ inside, before, pass, fun b t a whole proper => ?_⟩
  refine Nat.le_of_not_lt fun shorter => ?_
  rw [List.append_assoc] at whole
  obtain ⟨q, pass', behind⟩ := Cursor.exists_passes whole
  obtain ⟨stop, inside', -⟩ := Cursor.exists_passes behind
  obtain ⟨more, rfl⟩ : b <+: before :=
    List.prefix_of_prefix_length_le ⟨_, whole.symm⟩ ⟨_, pass.after.symm⟩ (Nat.le_of_lt shorter)
  obtain ⟨marks, reads⟩ := (h q t stop inside').2 proper
  refine first b q marks stop pass' ?_ reads
  have some : Text.utf8Size more ≠ 0 := fun none => by
    simp [Text.utf8Size_eq_zero_iff.1 none] at shorter
  rw [pass'.offset, pass.offset, Text.utf8Size_append]
  omega

/-- The first match is the leftmost text of the shape. -/
theorem first? (h : r.Describes shape) (found : r.first? text = some m) :
    m.IsLeftmost shape (Cursor.start text) := by
  obtain ⟨isMatch, before, pass⟩ := first?_sound found
  exact h.isLeftmost isMatch pass (noneBefore_of_first? found)

/-- Nothing is found just if no text of the shape occurs. -/
theorem first?_eq_none_iff (h : r.Describes shape) :
    r.first? text = none ↔ ∀ t, shape t → ¬ t <:+: text :=
  Regex.first?_eq_none_iff.trans h.noneFrom_iff

theorem fragments_of_scans (h : r.Describes shape) (scans : r.Scans p ms) :
    Fragments shape p ms := by
  induction scans with
  | nil enough none => exact .nil (h.noneFrom_iff.1 (noneFrom_of_firstFrom? enough none))
  | cons enough found _ ih =>
    obtain ⟨isMatch, before, pass⟩ := Automaton.firstFrom?_sound found
    exact .cons (h.isLeftmost isMatch pass (noneBefore_of_firstFrom? enough found)) ih

/-- All matches are texts of the shape from left to right, with none left out. -/
theorem fragments (h : r.Describes shape) (proper : r.canReadNothing = false) :
    Fragments shape (Cursor.start text) (r.allMatches text) :=
  h.fragments_of_scans (allMatches_scans proper)

end Describes

end Regex

end HookGraft

import HookGraft.Regex.Search
import HookGraft.Text.Lemmas

/-!
# What a term reads

A term reads a text from one place to another. On the way it passes the sides of groups, which are
noted as marks. This says what a pattern means, apart from how it is searched for.

## Main definitions

* `Cursor.Passes`: two places with a text between them
* `Reading`: ways from one place to another, with the marks they leave
* `Regex.Reads`: the ways that a term reads
* `Regex.hasGroup`, `Regex.alwaysMarks`: groups that may, and groups that must take part
* `Regex.longest?`: the number of characters that a term reads at most

## Main results

* `Regex.Reads.passes`: what a term reads is a text between two places
* `Regex.Reads.marks_eq_nil`: a term without groups leaves no marks
* `Regex.Reads.mem_marks`: a group that must take part leaves marks
* `Regex.Reads.length_le`: no term reads more characters than it can
-/

namespace HookGraft

/-! ## Places with a text between them -/

/-- From one place to another, over a text. -/
structure Cursor.Passes (p : Cursor) (t : Text) (q : Cursor) : Prop where
  before : q.before = t.reverse ++ p.before
  after : p.after = t ++ q.after
  offset : q.offset = p.offset + Text.utf8Size t

namespace Cursor.Passes

variable {p q r : Cursor} {s t : Text}

theorem refl (p : Cursor) : p.Passes [] p := ⟨by simp, by simp, by simp⟩

theorem trans (h : p.Passes s q) (h' : q.Passes t r) : p.Passes (s ++ t) r where
  before := by rw [h'.before, h.before]; simp
  after := by rw [h.after, h'.after]; simp
  offset := by rw [h'.offset, h.offset, Text.utf8Size_append]; omega

theorem single {c : Char} {rest : Text} (h : p.after = c :: rest) :
    p.Passes [c] ⟨c :: p.before, rest, p.offset + c.utf8Size⟩ :=
  ⟨by simp, by simpa using h, by simp⟩

/-- There is one text between two places. -/
theorem unique (h : p.Passes s q) (h' : p.Passes t q) : s = t :=
  List.append_cancel_right (h.after.symm.trans h'.after)

/-- The text between the two places of an extent. -/
theorem extent_text (h : p.Passes t q) : Extent.text ⟨p, q⟩ = t := by
  have size : q.offset - p.offset = Text.utf8Size t := by have := h.offset; omega
  rw [Extent.text, size, h.after, Text.takeBytes_utf8Size]

/-- The whole text around two places. -/
theorem whole (h : p.Passes t q) :
    p.before.reverse ++ p.after = p.before.reverse ++ t ++ q.after := by
  rw [h.after, List.append_assoc]

/-- The text before a place and the text behind it are the whole text, wherever the place is. -/
theorem around (h : p.Passes t q) :
    q.before.reverse ++ q.after = p.before.reverse ++ p.after := by
  rw [h.before, h.after]
  simp

end Cursor.Passes

/-! ## Ways from one place to another -/

/-- The sides of groups on a way, the last one first. -/
abbrev Marks := List ((Nat × Side) × Cursor)

/-- Ways from one place to another, with the marks they leave. -/
abbrev Reading := Cursor → Marks → Cursor → Prop

namespace Reading

/-- The way that goes nowhere. -/
def nothing : Reading := fun p marks q => q = p ∧ marks = []

/-- One way and then another. -/
def andThen (R S : Reading) : Reading := fun p marks q =>
  ∃ mid first second, R p first mid ∧ S mid second q ∧ marks = second ++ first

/-- So many ways one after the other. -/
def times (R : Reading) : Nat → Reading
  | 0 => nothing
  | n + 1 => R.andThen (R.times n)

theorem times_add {R : Reading} {m n : Nat} {p mid q : Cursor} {first second : Marks}
    (h : R.times m p first mid) (h' : R.times n mid second q) :
    R.times (m + n) p (second ++ first) q := by
  induction m generalizing p first with
  | zero =>
    obtain ⟨rfl, rfl⟩ := h
    simpa using h'
  | succ m ih =>
    obtain ⟨next, here, there, round, rest, rfl⟩ := h
    rw [Nat.succ_add]
    exact ⟨next, here, second ++ there, round, ih rest, by simp⟩

end Reading

namespace Regex

/-- The ways that a term reads, from the place where it begins to the place where it ends. -/
def Reads : Regex → Reading
  | text t => fun p marks q => p.Passes t q ∧ marks = []
  | char k => fun p marks q => ∃ c, k.contains c = true ∧ p.Passes [c] q ∧ marks = []
  | look l => fun p marks q => l.holds p = true ∧ q = p ∧ marks = []
  | seq a b => a.Reads.andThen b.Reads
  | alt a b => fun p marks q => a.Reads p marks q ∨ b.Reads p marks q
  | group n r => fun p marks q => ∃ inner, r.Reads p inner q ∧
      marks = ((n, .stop), q) :: (inner ++ [((n, .start), p)])
  | repeated r least most _ => fun p marks q => ∃ n, least ≤ n ∧
      (∀ m, most = some m → n ≤ max least m) ∧ r.Reads.times n p marks q

/-- Whether a term holds a group. -/
def hasGroup : Regex → Bool
  | text _ | char _ | look _ => false
  | seq a b | alt a b => a.hasGroup || b.hasGroup
  | group _ _ => true
  | repeated r _ _ _ => r.hasGroup

/-- Whether a group takes part whenever a term reads something. -/
def alwaysMarks (n : Nat) : Regex → Bool
  | text _ | char _ | look _ => false
  | seq a b => a.alwaysMarks n || b.alwaysMarks n
  | alt a b => a.alwaysMarks n && b.alwaysMarks n
  | group i r => i == n || r.alwaysMarks n
  | repeated r least most _ => least != 0 && most != some 0 && r.alwaysMarks n

/-- The number of characters that a term reads at most, if there is a limit. -/
def longest? : Regex → Option Nat
  | text t => some t.length
  | char _ => some 1
  | look _ => some 0
  | seq a b => do return (← a.longest?) + (← b.longest?)
  | alt a b => do return max (← a.longest?) (← b.longest?)
  | group _ r => r.longest?
  | repeated r least most _ => do return max least (← most) * (← r.longest?)

end Regex

namespace Reading

variable {R : Reading}

theorem passes_times (h : ∀ {p marks q}, R p marks q → ∃ t, p.Passes t q) {n : Nat}
    {p q : Cursor} {marks : Marks} (way : R.times n p marks q) : ∃ t, p.Passes t q := by
  induction n generalizing p marks with
  | zero =>
    obtain ⟨rfl, rfl⟩ := way
    exact ⟨[], .refl _⟩
  | succ n ih =>
    obtain ⟨mid, first, second, round, rest, rfl⟩ := way
    obtain ⟨s, hs⟩ := h round
    obtain ⟨t, ht⟩ := ih rest
    exact ⟨s ++ t, hs.trans ht⟩

theorem marks_times (h : ∀ {p marks q}, R p marks q → marks = []) {n : Nat} {p q : Cursor}
    {marks : Marks} (way : R.times n p marks q) : marks = [] := by
  induction n generalizing p marks with
  | zero => exact way.2
  | succ n ih =>
    obtain ⟨mid, first, second, round, rest, rfl⟩ := way
    rw [h round, ih rest]
    rfl

theorem length_times {k : Nat}
    (h : ∀ {p marks q t}, R p marks q → p.Passes t q → t.length ≤ k)
    (h' : ∀ {p marks q}, R p marks q → ∃ t, p.Passes t q) {n : Nat}
    {p q : Cursor} {marks : Marks} {t : Text} (way : R.times n p marks q) (pass : p.Passes t q) :
    t.length ≤ n * k := by
  induction n generalizing p marks t with
  | zero =>
    obtain ⟨rfl, rfl⟩ := way
    simp [pass.unique (.refl q)]
  | succ n ih =>
    obtain ⟨mid, first, second, round, rest, rfl⟩ := way
    obtain ⟨s, hs⟩ := h' round
    obtain ⟨u, hu⟩ := passes_times h' rest
    obtain rfl := pass.unique (hs.trans hu)
    have one := h round hs
    have more := ih rest hu
    rw [List.length_append, Nat.add_mul, Nat.one_mul]
    omega

end Reading

namespace Regex.Reads

variable {r : Regex} {p q : Cursor} {marks : Marks}

/-- What a term reads is a text between two places. -/
theorem passes (h : r.Reads p marks q) : ∃ t, p.Passes t q := by
  induction r generalizing p marks q with
  | text t => exact ⟨t, h.1⟩
  | char k =>
    obtain ⟨c, -, pass, -⟩ := h
    exact ⟨[c], pass⟩
  | look l =>
    obtain ⟨-, rfl, -⟩ := h
    exact ⟨[], .refl _⟩
  | seq a b iha ihb =>
    obtain ⟨mid, first, second, ha, hb, -⟩ := h
    obtain ⟨s, hs⟩ := iha ha
    obtain ⟨t, ht⟩ := ihb hb
    exact ⟨s ++ t, hs.trans ht⟩
  | alt a b iha ihb =>
    rcases h with h | h
    · exact iha h
    · exact ihb h
  | group n r ih =>
    obtain ⟨inner, h, -⟩ := h
    exact ih h
  | repeated r least most greedy ih =>
    obtain ⟨n, -, -, h⟩ := h
    exact Reading.passes_times ih h

/-- A term without groups leaves no marks. -/
theorem marks_eq_nil (none : r.hasGroup = false) (h : r.Reads p marks q) : marks = [] := by
  induction r generalizing p marks q with
  | text t => exact h.2
  | char k =>
    obtain ⟨c, -, -, rfl⟩ := h
    rfl
  | look l => exact h.2.2
  | seq a b iha ihb =>
    obtain ⟨noneA, noneB⟩ := Bool.or_eq_false_iff.1 none
    obtain ⟨mid, first, second, ha, hb, rfl⟩ := h
    rw [iha noneA ha, ihb noneB hb]
    rfl
  | alt a b iha ihb =>
    obtain ⟨noneA, noneB⟩ := Bool.or_eq_false_iff.1 none
    rcases h with h | h
    · exact iha noneA h
    · exact ihb noneB h
  | group n r => contradiction
  | repeated r least most greedy ih =>
    obtain ⟨n, -, -, h⟩ := h
    exact Reading.marks_times (ih none) h

/-- A group that must take part leaves a mark for either side. -/
theorem mem_marks {n : Nat} (always : r.alwaysMarks n = true) (h : r.Reads p marks q)
    (side : Side) : (n, side) ∈ marks.map Prod.fst := by
  induction r generalizing p marks q with
  | text t => contradiction
  | char k => contradiction
  | look l => contradiction
  | seq a b iha ihb =>
    obtain ⟨mid, first, second, ha, hb, rfl⟩ := h
    rw [List.map_append, List.mem_append]
    rcases Bool.or_eq_true_iff.1 always with inA | inB
    · exact .inr (iha inA ha)
    · exact .inl (ihb inB hb)
  | alt a b iha ihb =>
    obtain ⟨inA, inB⟩ := Bool.and_eq_true_iff.1 always
    rcases h with h | h
    · exact iha inA h
    · exact ihb inB h
  | group i r ih =>
    obtain ⟨inner, h, rfl⟩ := h
    rcases Bool.or_eq_true_iff.1 always with same | inside
    · obtain rfl := beq_iff_eq.1 same
      cases side <;> simp
    · simp [ih inside h]
  | repeated r least most greedy ih =>
    simp only [alwaysMarks, Bool.and_eq_true, bne_iff_ne] at always
    obtain ⟨k, enough, -, ways⟩ := h
    cases k with
    | zero => omega
    | succ k =>
      obtain ⟨mid, first, second, round, others, rfl⟩ := ways
      rw [List.map_append, List.mem_append]
      exact .inr (ih always.2 round)

/-- A group that must take part is counted. -/
theorem le_groupCount {n : Nat} (always : r.alwaysMarks n = true) : n ≤ r.groupCount := by
  induction r with
  | text t => contradiction
  | char k => contradiction
  | look l => contradiction
  | seq a b iha ihb =>
    rcases Bool.or_eq_true_iff.1 always with inA | inB
    · exact Nat.le_trans (iha inA) (Nat.le_max_left _ _)
    · exact Nat.le_trans (ihb inB) (Nat.le_max_right _ _)
  | alt a b iha ihb =>
    exact Nat.le_trans (iha (Bool.and_eq_true_iff.1 always).1) (Nat.le_max_left _ _)
  | group i r ih =>
    rcases Bool.or_eq_true_iff.1 always with same | inside
    · exact Nat.le_trans (Nat.le_of_eq (beq_iff_eq.1 same).symm) (Nat.le_max_left _ _)
    · exact Nat.le_trans (ih inside) (Nat.le_max_right _ _)
  | repeated r least most greedy ih =>
    simp only [alwaysMarks, Bool.and_eq_true, bne_iff_ne] at always
    match most, always with
    | none, always => exact ih always.2
    | some 0, always => exact absurd rfl always.1.2
    | some (_ + 1), always => exact ih always.2

/-- What is read by repeating a class is made of members of the class. -/
theorem of_repeated_char {k : CharClass} {least : Nat} {most : Option Nat} {greedy : Bool}
    (h : (repeated (char k) least most greedy).Reads p marks q) :
    ∃ t, p.Passes t q ∧ least ≤ t.length ∧ (∀ c ∈ t, k.contains c = true) ∧ marks = [] := by
  obtain ⟨n, enough, -, ways⟩ := h
  -- there is one member for each round; the lower bound is no invariant of the rounds
  suffices ∃ t, p.Passes t q ∧ t.length = n ∧ (∀ c ∈ t, k.contains c = true) ∧ marks = [] by
    obtain ⟨t, pass, rfl, members, none⟩ := this
    exact ⟨t, pass, enough, members, none⟩
  clear enough
  induction n generalizing p marks with
  | zero =>
    obtain ⟨rfl, rfl⟩ := ways
    exact ⟨[], .refl _, rfl, by simp, rfl⟩
  | succ n ih =>
    obtain ⟨mid, first, second, ⟨c, member, pass, rfl⟩, others, rfl⟩ := ways
    obtain ⟨t, pass', rfl, members, rfl⟩ := ih others
    exact ⟨c :: t, pass.trans pass', rfl, List.forall_mem_cons.2 ⟨member, members⟩, rfl⟩

/-- No term reads more characters than it can. -/
theorem length_le {k : Nat} {t : Text} (limit : r.longest? = some k) (h : r.Reads p marks q)
    (pass : p.Passes t q) : t.length ≤ k := by
  induction r generalizing p marks q t k with
  | text u =>
    obtain rfl := pass.unique h.1
    exact Nat.le_of_eq (Option.some.inj limit)
  | char c =>
    obtain ⟨c, -, pass', -⟩ := h
    obtain rfl := pass.unique pass'
    exact Nat.le_of_eq (Option.some.inj limit)
  | look l =>
    obtain ⟨-, rfl, -⟩ := h
    simp [pass.unique (.refl q)]
  | seq a b iha ihb =>
    obtain ⟨mid, first, second, ha, hb, -⟩ := h
    obtain ⟨s, hs⟩ := ha.passes
    obtain ⟨u, hu⟩ := hb.passes
    obtain rfl := pass.unique (hs.trans hu)
    simp only [longest?, Option.bind_eq_bind, Option.bind_eq_some_iff, Option.pure_def,
      Option.some.injEq] at limit
    obtain ⟨i, hi, j, hj, rfl⟩ := limit
    rw [List.length_append]
    exact Nat.add_le_add (iha hi ha hs) (ihb hj hb hu)
  | alt a b iha ihb =>
    simp only [longest?, Option.bind_eq_bind, Option.bind_eq_some_iff, Option.pure_def,
      Option.some.injEq] at limit
    obtain ⟨i, hi, j, hj, rfl⟩ := limit
    rcases h with h | h
    · exact Nat.le_trans (iha hi h pass) (Nat.le_max_left i j)
    · exact Nat.le_trans (ihb hj h pass) (Nat.le_max_right i j)
  | group n r ih =>
    obtain ⟨inner, h, -⟩ := h
    exact ih limit h pass
  | repeated r least most greedy ih =>
    obtain ⟨n, -, fits, h⟩ := h
    simp only [longest?, Option.bind_eq_bind, Option.bind_eq_some_iff, Option.pure_def,
      Option.some.injEq] at limit
    obtain ⟨m, rfl, j, hj, rfl⟩ := limit
    have rounds := Reading.length_times (fun way pass => ih hj way pass) passes h pass
    exact Nat.le_trans rounds (Nat.mul_le_mul_right j (fits m rfl))

end Regex.Reads

end HookGraft

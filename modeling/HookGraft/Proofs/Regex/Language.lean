import HookGraft.Proofs.Regex.Search
import HookGraft.Regex.Building
import Mathlib.Data.List.Forall2

/-!
# The texts of a term

What a term reads depends on its place only by conditions on places. Apart from these, a term
stands for a set of texts, and a match of a sequence comes apart into the texts of its parts.

## Main definitions

* `Regex.Spells`: the texts that a term reads, wherever they stand

## Main results

* `Regex.Matches.spells`: the text of a match
* `Regex.Spells.of_inOrder`: a text of a sequence is made of texts of its parts
* `Regex.Spells.of_repeated`: a text of a repetition is made of texts of the rounds
-/

namespace HookGraft.Regex

/-- A term reads a text somewhere. -/
def Spells (r : Regex) (t : Text) : Prop := ∃ p marks q, r.Reads p marks q ∧ p.Passes t q

variable {r a b : Regex} {rs : List Regex} {t u : Text} {m : Match}

/-- The text of a match is a text of the term. -/
theorem Matches.spells (h : r.Matches m) : r.Spells m.whole.text := by
  obtain ⟨t, pass⟩ := h.passes
  obtain ⟨marks, reads, -⟩ := h.reads
  have text : m.whole.text = t := pass.extent_text
  exact ⟨_, marks, _, reads, text ▸ pass⟩

namespace Spells

theorem of_text (h : (text u).Spells t) : t = u := by
  obtain ⟨p, marks, q, ⟨inside, -⟩, pass⟩ := h
  exact pass.unique inside

theorem of_char {k : CharClass} (h : (char k).Spells t) :
    ∃ c, k.contains c = true ∧ t = [c] := by
  obtain ⟨p, marks, q, ⟨c, member, inside, -⟩, pass⟩ := h
  exact ⟨c, member, pass.unique inside⟩

theorem of_seq (h : (seq a b).Spells t) : ∃ s u, a.Spells s ∧ b.Spells u ∧ t = s ++ u := by
  obtain ⟨p, marks, q, ⟨mid, first, second, left, right, -⟩, pass⟩ := h
  obtain ⟨s, before⟩ := left.passes
  obtain ⟨u, behind⟩ := right.passes
  exact ⟨s, u, ⟨p, first, mid, left, before⟩, ⟨mid, second, q, right, behind⟩,
    pass.unique (before.trans behind)⟩

theorem of_group {n : Nat} (h : (group n r).Spells t) : r.Spells t := by
  obtain ⟨p, marks, q, ⟨inner, reads, -⟩, pass⟩ := h
  exact ⟨p, inner, q, reads, pass⟩

/-- A text of a sequence is made of texts of its parts. -/
theorem of_inOrder (h : (inOrder rs).Spells t) :
    ∃ ts, List.Forall₂ Spells rs ts ∧ t = ts.flatten := by
  induction rs generalizing t with
  | nil => exact ⟨[], .nil, of_text h⟩
  | cons r rest ih =>
    cases rest with
    | nil => exact ⟨[t], .cons h .nil, by simp⟩
    | cons r' rest =>
      rw [inOrder] at h
      · obtain ⟨s, u, first, others, rfl⟩ := of_seq h
        obtain ⟨ts, parts, rfl⟩ := ih others
        exact ⟨s :: ts, .cons first parts, rfl⟩
      · simp

theorem of_times {n : Nat} {p q : Cursor} {marks : Marks} (h : r.Reads.times n p marks q)
    (pass : p.Passes t q) : ∃ ts : List Text, ts.length = n ∧ (∀ u ∈ ts, r.Spells u) ∧
      t = ts.flatten := by
  induction n generalizing p marks t with
  | zero =>
    obtain ⟨rfl, rfl⟩ := h
    exact ⟨[], rfl, by simp, pass.unique (.refl _)⟩
  | succ n ih =>
    obtain ⟨mid, first, second, round, others, rfl⟩ := h
    obtain ⟨s, here⟩ := round.passes
    obtain ⟨u, behind⟩ := Reading.passes_times Reads.passes others
    obtain ⟨ts, rfl, parts, rfl⟩ := ih others behind
    exact ⟨s :: ts, rfl, List.forall_mem_cons.2 ⟨⟨p, first, mid, round, here⟩, parts⟩,
      pass.unique (here.trans behind)⟩

/-- A text of a repetition is made of texts of the rounds. -/
theorem of_repeated {least most : Nat} {greedy : Bool}
    (h : (repeated r least (some most) greedy).Spells t) :
    ∃ ts : List Text, least ≤ ts.length ∧ ts.length ≤ max least most ∧ (∀ u ∈ ts, r.Spells u) ∧
      t = ts.flatten := by
  obtain ⟨p, marks, q, ⟨n, enough, fits, ways⟩, pass⟩ := h
  obtain ⟨ts, rfl, parts, whole⟩ := of_times ways pass
  exact ⟨ts, enough, fits most rfl, parts, whole⟩

/-- A text of a repeated class is made of members of the class. -/
theorem of_repeated_char {k : CharClass} {least : Nat} {most : Option Nat} {greedy : Bool}
    (h : (repeated (char k) least most greedy).Spells t) : ∀ c ∈ t, k.contains c = true := by
  obtain ⟨p, marks, q, reads, pass⟩ := h
  obtain ⟨s, pass', -, members, -⟩ := Reads.of_repeated_char reads
  obtain rfl := pass.unique pass'
  exact members

theorem length_le_of_repeated_char {k : CharClass} {least most : Nat} {greedy : Bool}
    (h : (repeated (char k) least (some most) greedy).Spells t) (le : least ≤ most) :
    t.length ≤ most := by
  obtain ⟨p, marks, q, reads, pass⟩ := h
  have short := reads.length_le rfl pass
  rwa [Nat.mul_one, Nat.max_eq_right le] at short

end Spells

end HookGraft.Regex

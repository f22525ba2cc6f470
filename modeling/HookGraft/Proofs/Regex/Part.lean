import HookGraft.Proofs.Regex.Groups

/-!
# Readings of a part of a text

What a term reads in a part of a text, it reads in the whole text at the places that correspond, as
long as it holds no condition on places.

## Main definitions

* `Cursor.within`, `Extent.within`, `Match.within`: what lies in a part of a text, in the whole text
* `Cursor.between`: the place between two texts
* `Extent.Inside`: an extent of a text
* `Regex.hasLook`: whether a term holds a condition on places

## Main results

* `Extent.Inside.text_within`: what an extent holds does not depend on what lies around the text
* `Regex.Reads.within`: what a term reads in a part of a text it reads in the whole text
* `Regex.Reads.passes_mark`: marks are left on the way
-/

namespace HookGraft

/-! ## Places of a part of a text -/

/-- A place of a text that stands between two others. -/
def Cursor.within (before after : Text) (p : Cursor) : Cursor :=
  ⟨p.before ++ before.reverse, p.after ++ after, Text.utf8Size before + p.offset⟩

/-- The place between two texts. -/
def Cursor.between (before after : Text) : Cursor := ⟨before.reverse, after, Text.utf8Size before⟩

/-- An extent of a text that stands between two others. -/
def Extent.within (before after : Text) (e : Extent) : Extent :=
  ⟨e.start.within before after, e.stop.within before after⟩

/-- A match in a text that stands between two others. -/
def Match.within (before after : Text) (m : Match) : Match :=
  ⟨m.whole.within before after, m.groups.map (Option.map (Extent.within before after))⟩

/-- Marks in a text that stands between two others. -/
def Marks.within (before after : Text) (marks : Marks) : Marks :=
  marks.map fun mark => (mark.1, mark.2.within before after)

/-- A thread in a text that stands between two others. -/
def Thread.within (before after : Text) (t : Thread) : Thread :=
  ⟨t.step, t.place.within before after, Marks.within before after t.marks⟩

section Within

variable {before after : Text} {p q : Cursor} {s t : Text}

theorem Cursor.start_eq (t : Text) : start t = between [] t := rfl

@[simp] theorem Cursor.within_between :
    (between s t).within before after = between (before ++ s) (t ++ after) := by
  simp [within, between, Text.utf8Size_append]

theorem Cursor.between_passes (s t after : Text) :
    (between s (t ++ after)).Passes t (between (s ++ t) after) :=
  ⟨by simp [between], rfl, by simp [between, Text.utf8Size_append]⟩

/-- A text lies between its start and its end. -/
theorem Cursor.start_passes (t : Text) : (start t).Passes t (between t []) := by
  have := between_passes [] t []
  rwa [List.append_nil] at this

/-- What lies behind a part of the text behind a place. -/
theorem Cursor.Passes.eq_between {q : Cursor} (h : (between s (t ++ after)).Passes t q) :
    q = between (s ++ t) after := by
  obtain ⟨before, rest, offset⟩ := q
  obtain ⟨rfl, behind, rfl⟩ := h
  obtain rfl : after = rest := List.append_cancel_left behind
  simp [between, Text.utf8Size_append]

theorem Cursor.Passes.within (h : p.Passes t q) :
    (p.within before after).Passes t (q.within before after) where
  before := by simp [Cursor.within, h.before]
  after := by simp [Cursor.within, h.after]
  offset := by simp [Cursor.within, h.offset, Nat.add_assoc]

theorem Marks.lookup_within (marks : Marks) (n : Nat) (side : Side) :
    (marks.within before after).lookup (n, side) =
      (List.lookup (n, side) marks).map (Cursor.within before after) := by
  induction marks with
  | nil => rfl
  | cons mark rest ih =>
    obtain ⟨name, place⟩ := mark
    rw [within] at ih ⊢
    rw [List.map_cons, List.lookup_cons, List.lookup_cons, ih]
    cases (n, side) == name <;> rfl

/-- What groups have read in a part of a text, in the whole text. -/
theorem Thread.group?_within (t : Thread) (n : Nat) :
    (t.within before after).group? n =
      (t.group? n).map fun e => (e.1.within before after, e.2.within before after) := by
  simp only [group?, Thread.within, Marks.lookup_within]
  cases t.marks.lookup (n, .start) with
  | none => rfl
  | some start =>
    cases t.marks.lookup (n, .stop) with
    | none => rfl
    | some stop => rfl

theorem Match.ofThread_within (groupCount : Nat) (p : Cursor) (t : Thread) :
    ofThread groupCount (p.within before after) (t.within before after) =
      (ofThread groupCount p t).within before after := by
  simp only [ofThread, within, Match.mk.injEq, List.map_map]
  refine ⟨rfl, List.map_congr_left fun i _ => ?_⟩
  rw [Thread.group?_within, Function.comp_apply]
  cases t.group? (i + 1) with
  | none => rfl
  | some e => rfl

/-- An extent of a text. -/
structure Extent.Inside (t : Text) (e : Extent) : Prop where
  start : ∃ s, (Cursor.start t).Passes s e.start
  stop : ∃ s, (Cursor.start t).Passes s e.stop

/-- What an extent holds does not depend on what lies around the text. -/
theorem Extent.Inside.text_within {e : Extent} (h : e.Inside t) :
    (e.within before after).text = e.text := by
  obtain ⟨s, pass⟩ := h.start
  obtain ⟨u, pass'⟩ := h.stop
  have fits : e.stop.offset - e.start.offset ≤ Text.utf8Size e.start.after := by
    have whole := congrArg Text.utf8Size pass.after
    have whole' := congrArg Text.utf8Size pass'.after
    rw [Text.utf8Size_append] at whole whole'
    have offset := pass.offset
    have offset' := pass'.offset
    omega
  simp only [Extent.text, Extent.within, Cursor.within]
  rw [Nat.add_sub_add_left, Text.takeBytes_append after fits]

theorem Match.group?_within (m : Match) (n : Nat) :
    (m.within before after).group? n = (m.group? n).map (Extent.within before after) := by
  cases n with
  | zero => rfl
  | succ n =>
    simp only [group?, within, List.getElem?_map]
    cases m.groups[n]? with
    | none => rfl
    | some e => rfl

end Within

/-! ## Readings -/

namespace Regex

/-- Whether a term holds a condition on places. -/
def hasLook : Regex → Bool
  | text _ | char _ => false
  | look _ => true
  | seq a b | alt a b => a.hasLook || b.hasLook
  | group _ r => r.hasLook
  | repeated r _ _ _ => r.hasLook

variable {p q : Cursor} {before after : Text} {marks : Marks}

theorem times_within {R : Reading}
    (part : ∀ {p marks q}, R p marks q →
      R (p.within before after) (marks.within before after) (q.within before after))
    {n : Nat} (h : R.times n p marks q) :
    R.times n (p.within before after) (marks.within before after) (q.within before after) := by
  induction n generalizing p marks with
  | zero =>
    obtain ⟨rfl, rfl⟩ := h
    exact ⟨rfl, rfl⟩
  | succ n ih =>
    obtain ⟨mid, first, second, round, rest, rfl⟩ := h
    exact ⟨mid.within before after, _, _, part round, ih rest, List.map_append⟩

/-- What a term reads in a part of a text it reads in the whole text. -/
theorem Reads.within {r : Regex} (noLook : r.hasLook = false) (h : r.Reads p marks q) :
    r.Reads (p.within before after) (marks.within before after) (q.within before after) := by
  induction r generalizing p marks q with
  | text t =>
    obtain ⟨pass, rfl⟩ := h
    exact ⟨pass.within, rfl⟩
  | char k =>
    obtain ⟨c, member, pass, rfl⟩ := h
    exact ⟨c, member, pass.within, rfl⟩
  | look l => contradiction
  | seq a b iha ihb =>
    obtain ⟨noneA, noneB⟩ := Bool.or_eq_false_iff.1 noLook
    obtain ⟨mid, first, second, ha, hb, rfl⟩ := h
    exact ⟨mid.within before after, _, _, iha noneA ha, ihb noneB hb, List.map_append⟩
  | alt a b iha ihb =>
    obtain ⟨noneA, noneB⟩ := Bool.or_eq_false_iff.1 noLook
    rcases h with h | h
    · exact .inl (iha noneA h)
    · exact .inr (ihb noneB h)
  | group n r ih =>
    obtain ⟨inner, h, rfl⟩ := h
    refine ⟨_, ih noLook h, ?_⟩
    simp [Marks.within]
  | repeated r least most greedy ih =>
    obtain ⟨n, enough, fits, ways⟩ := h
    exact ⟨n, enough, fits, times_within (ih noLook) ways⟩

/-- Marks are left on the way. -/
theorem Reads.passes_mark {r : Regex} (h : r.Reads p marks q) :
    ∀ mark ∈ marks, ∃ s, p.Passes s mark.2 := fun mark member => by
  obtain ⟨s, -, pass, -⟩ := h.marks_between.lies mark member
  exact ⟨s, pass⟩

end Regex

end HookGraft

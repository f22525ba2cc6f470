import HookGraft.Proofs.Edit
import HookGraft.Proofs.Regex.Locality
import HookGraft.Proofs.Regex.Sweep
import HookGraft.Proofs.TwoRuns

/-!
# Texts with gaps

Two runs that differ in the namespace leave texts that differ in the places where the namespace
stands. A sketch is what they have in common. What is found in either text without touching a gap is
found in both, at the same place.

## Main definitions

* `Sketch`, `Sketch.fill`: texts with gaps, and the text with a part in the place of each gap
* `Sketch.Fills`: two texts with one sketch
* `Extent.Avoids`: an extent that no occurrence of a text overlaps
* `Extent.Parallel`, `Match.Parallel`: the same extent, and the same match, in two texts
* `Sketch.Scanned`: what two searches for all matches find that touch no gap

## Main results

* `Sketch.exists_split`: a part of a filled sketch that touches no gap is part of the sketch
* `Sketch.found`: two searches that touch no gap find the same
* `Sketch.scanned`: the same of searches for all matches
* `Sketch.Scanned.replaceMatches`: replacing what they find leaves texts with one sketch
-/

namespace HookGraft

/-- A text with gaps. -/
abbrev Sketch := List (Option Char)

/-- An extent that no occurrence of a text overlaps. -/
def Extent.Avoids (part : Text) (e : Extent) : Prop :=
  ∀ before after, e.start.before.reverse ++ e.start.after = before ++ part ++ after →
    e.stop.before.length ≤ before.length ∨
      before.length + part.length ≤ e.start.before.length

/-- An extent with a text that follows it. -/
def Extent.append (e : Extent) (more : Text) : Extent where
  start := e.start
  stop := {
    before := more.reverse ++ e.stop.before
    after := e.stop.after.drop more.length
    offset := e.stop.offset + Text.utf8Size more }

theorem Extent.Avoids.of_append {part more : Text} {e : Extent} (h : (e.append more).Avoids part) :
    e.Avoids part := by
  intro before after whole
  rcases h before after whole with behind | front
  · exact .inl (Nat.le_trans (by simp [append]) behind)
  · exact .inr front

namespace Sketch

variable {part part' : Text} {A A' B B' S T : Sketch} {s t : Text}

/-- A text without gaps. -/
def plain (t : Text) : Sketch := t.map some

/-- The text with a part in the place of each gap. -/
def fill (part : Text) (T : Sketch) : Text :=
  T.flatMap fun
    | some c => [c]
    | none => part

@[simp] theorem fill_nil : fill part [] = [] := rfl

@[simp] theorem fill_some {c : Char} : fill part (some c :: T) = c :: fill part T := rfl

@[simp] theorem fill_none : fill part (none :: T) = part ++ fill part T := rfl

@[simp] theorem fill_append : fill part (S ++ T) = fill part S ++ fill part T :=
  List.flatMap_append

@[simp] theorem fill_plain : fill part (plain t) = t := by
  induction t with
  | nil => rfl
  | cons c t ih => exact congrArg (c :: ·) ih

@[simp] theorem plain_append : plain (s ++ t) = plain s ++ plain t := List.map_append

theorem fill_eq_nil_iff (proper : part ≠ []) : fill part T = [] ↔ T = [] := by
  constructor
  · intro none
    cases T with
    | nil => rfl
    | cons item T =>
      cases item with
      | some c => contradiction
      | none => exact absurd (List.append_eq_nil_iff.1 none).1 proper
  · rintro rfl
    rfl

/-- Two texts with one sketch. -/
def Fills (part part' : Text) (t t' : Text) : Prop := ∃ T, t = fill part T ∧ t' = fill part' T

namespace Fills

variable {t' u u' : Text}

/-- A text is a sketch without gaps. -/
theorem refl (t : Text) : Fills part part' t t := ⟨plain t, fill_plain.symm, fill_plain.symm⟩

theorem append (h : Fills part part' t t') (h' : Fills part part' u u') :
    Fills part part' (t ++ u) (t' ++ u') := by
  obtain ⟨T, rfl, rfl⟩ := h
  obtain ⟨U, rfl, rfl⟩ := h'
  exact ⟨T ++ U, fill_append.symm, fill_append.symm⟩

theorem flatten {ts ts' : List Text} (h : List.Forall₂ (Fills part part') ts ts') :
    Fills part part' ts.flatten ts'.flatten := by
  induction h with
  | nil => exact refl []
  | cons first _ rest => exact first.append rest

end Fills

theorem prefix_of_plain (h : plain s <+: plain t) : s <+: t := by
  obtain ⟨more, whole⟩ := h
  obtain ⟨first, rest, rfl, same, -⟩ := List.map_eq_append_iff.1 whole.symm
  obtain rfl := List.map_injective_iff.2 (Option.some_injective Char) same
  exact ⟨rest, rfl⟩

/-- A text without gaps is the beginning of another one if a sketch begins with both. -/
theorem prefix_or_prefix (h : plain s ++ A = plain t ++ A') : s <+: t ∨ t <+: s :=
  (List.prefix_or_prefix_of_prefix (List.prefix_append (plain s) A) ⟨A', h.symm⟩).imp
    prefix_of_plain prefix_of_plain

/-- Of two beginnings of a sketch, the one that takes up less space is the beginning of the other. -/
theorem prefix_of_size_le (proper : part ≠ []) (h : S <+: A) (h' : T <+: A)
    (le : Text.utf8Size (fill part S) ≤ Text.utf8Size (fill part T)) : S <+: T := by
  rcases List.prefix_or_prefix_of_prefix h h' with first | ⟨more, rfl⟩
  · exact first
  · rw [fill_append, Text.utf8Size_append] at le
    have none : Text.utf8Size (fill part more) = 0 := by omega
    rw [Text.utf8Size_eq_zero_iff, fill_eq_nil_iff proper] at none
    rw [none, List.append_nil]

/-- A part of a filled sketch that touches no gap is part of the sketch. -/
theorem exists_split (proper : part ≠ []) {before after : Text}
    (whole : fill part T = before ++ t ++ after)
    (avoids : ∀ x y, fill part T = x ++ part ++ y →
      before.length + t.length ≤ x.length ∨ x.length + part.length ≤ before.length) :
    ∃ B A, T = B ++ plain t ++ A ∧ fill part B = before ∧ fill part A = after := by
  induction T generalizing before t with
  | nil =>
    obtain ⟨⟨rfl, rfl⟩, rfl⟩ : (before = [] ∧ t = []) ∧ after = [] := by
      simpa [eq_comm, and_assoc] using whole
    exact ⟨[], [], rfl, rfl, rfl⟩
  | cons item T ih =>
    cases item with
    | some c =>
      have later {x y : Text} (occurs : fill part T = x ++ part ++ y) :
          before.length + t.length ≤ x.length + 1 ∨ x.length + 1 + part.length ≤ before.length :=
        avoids (c :: x) y (by rw [fill_some, occurs]; rfl)
      cases before with
      | cons d before =>
        obtain ⟨rfl, rest⟩ := List.cons.inj whole
        obtain ⟨B, A, rfl, rfl, rfl⟩ := ih rest fun x y occurs => by
          have := later occurs
          simp only [List.length_cons] at this
          omega
        exact ⟨some c :: B, A, rfl, rfl, rfl⟩
      | nil =>
        cases t with
        | nil => exact ⟨[], some c :: T, rfl, rfl, whole⟩
        | cons d t =>
          obtain ⟨rfl, rest⟩ := List.cons.inj whole
          have split : fill part T = [] ++ t ++ after := rest
          obtain ⟨B, A, rfl, none, rfl⟩ := ih split fun x y occurs => by
            have := later occurs
            simp only [List.length_cons, List.length_nil] at this ⊢
            omega
          obtain rfl := (fill_eq_nil_iff proper).1 none
          exact ⟨[], A, rfl, rfl, rfl⟩
    | none =>
      rcases avoids [] (fill part T) rfl with short | long
      · rw [List.length_nil, Nat.le_zero, Nat.add_eq_zero_iff, List.length_eq_zero_iff,
          List.length_eq_zero_iff] at short
        obtain ⟨rfl, rfl⟩ := short
        exact ⟨[], none :: T, rfl, rfl, whole⟩
      · rw [List.length_nil, Nat.zero_add] at long
        rw [fill_none, List.append_assoc] at whole
        obtain ⟨before, rfl⟩ : part <+: before :=
          List.prefix_of_prefix_length_le ⟨_, rfl⟩ ⟨_, whole.symm⟩ long
        rw [List.append_assoc] at whole
        have rest := List.append_cancel_left whole
        have later {x y : Text} (occurs : fill part T = x ++ part ++ y) :=
          avoids (part ++ x) y (by simp [occurs])
        obtain ⟨B, A, rfl, rfl, rfl⟩ := ih (rest.trans (List.append_assoc _ _ _).symm) fun x y occurs => by
          have := later occurs
          simp only [List.length_append] at this
          omega
        exact ⟨none :: B, A, rfl, rfl, rfl⟩

end Sketch

/-! ## One extent in two texts -/

open Sketch in
/-- The same extent of a text that stands in two others, between the same sketches. -/
inductive Extent.Parallel (part part' : Text) : Extent → Extent → Prop where
  | within {t : Text} {e : Extent} (B A : Sketch) : e.Inside t →
      Parallel part part' (e.within (fill part B) (fill part A))
        (e.within (fill part' B) (fill part' A))

namespace Extent.Parallel

variable {part part' : Text} {e e' : Extent}

theorem text_eq (h : Parallel part part' e e') : e.text = e'.text := by
  obtain ⟨B, A, inside⟩ := h
  rw [inside.text_within, inside.text_within]

/-- Putting texts with one sketch in the places of the two leaves texts with one sketch. -/
theorem replace {new new' : Text} (h : Parallel part part' e e')
    (fills : Sketch.Fills part part' new new') :
    Sketch.Fills part part' (e.replace new) (e'.replace new') := by
  obtain @⟨t, e, B, A, -⟩ := h
  have around (root : Text) (code : Text) :
      (e.within (Sketch.fill root B) (Sketch.fill root A)).replace code =
        Sketch.fill root B ++ e.start.before.reverse ++ code ++
          (e.stop.after ++ Sketch.fill root A) := by
    simp [Extent.replace, Extent.within, Cursor.within]
  rw [around, around]
  have before : Sketch.Fills part part' (Sketch.fill part B) (Sketch.fill part' B) := ⟨B, rfl, rfl⟩
  have after : Sketch.Fills part part' (Sketch.fill part A) (Sketch.fill part' A) := ⟨A, rfl, rfl⟩
  exact ((before.append (.refl _)).append fills).append ((Sketch.Fills.refl _).append after)

end Extent.Parallel

/-- Two matches whose wholes and whose groups are the same extents of two texts. -/
structure Match.Parallel (part part' : Text) (m m' : Match) : Prop where
  whole : m.whole.Parallel part part' m'.whole
  capture (rule : String) (index : Nat) : m.capture rule index = m'.capture rule index
  captureSpan (rule : String) (index : Nat) : Except.Alike (Extent.Parallel part part')
    (m.captureSpan rule index) (m'.captureSpan rule index)

namespace Sketch

variable {part part' : Text} {A A' B B' S T : Sketch} {s t : Text}

/-! ## One search -/

section Search

variable {r : Regex} {m m' : Match} {fuel fuel' : Nat}

/-- A place in a filled sketch. -/
def place (part : Text) (B A : Sketch) : Cursor := .between (fill part B) (fill part A)

/-- Where a match lies in a filled sketch, behind a place: behind `S`, and in front of `A'`. -/
structure Spot (part : Text) (B A : Sketch) (m : Match) (S : Sketch) (t : Text) (A' : Sketch) :
    Prop where
  split : A = S ++ plain t ++ A'
  start : m.whole.start = .between (fill part (B ++ S)) (t ++ fill part A')
  passes : m.whole.start.Passes t m.whole.stop

theorem Spot.begins (spot : Spot part B A m S t A') : S <+: A :=
  ⟨plain t ++ A', by rw [spot.split, List.append_assoc]⟩

/-- A match that touches no gap lies in the sketch. -/
theorem exists_spot (proper : part ≠ []) (isMatch : r.Matches m)
    (pass : (place part B A).Passes s m.whole.start) (avoids : m.whole.Avoids part) :
    ∃ S t A', Spot part B A m S t A' := by
  obtain ⟨t, inside⟩ := isMatch.passes
  have whole : fill part A = s ++ t ++ m.whole.stop.after := by
    rw [List.append_assoc, ← inside.after, ← pass.after]
    rfl
  have before : m.whole.start.before.length = (fill part B).length + s.length := by
    rw [pass.before, place, Cursor.between, List.length_append, List.length_reverse,
      List.length_reverse, Nat.add_comm]
  have before' : m.whole.stop.before.length = (fill part B).length + s.length + t.length := by
    rw [inside.before, List.length_append, List.length_reverse, before, Nat.add_comm]
  obtain ⟨S, A', rfl, rfl, rest⟩ := exists_split proper whole fun x y occurs => by
    have text : m.whole.start.before.reverse ++ m.whole.start.after =
        (fill part B ++ x) ++ part ++ y := by
      rw [pass.around, place, Cursor.between, List.reverse_reverse, occurs]
      simp
    have := avoids _ _ text
    rw [before, before', List.length_append] at this
    omega
  refine ⟨S, t, A', rfl, ?_, inside⟩
  have split : place part B (S ++ plain t ++ A') =
      .between (fill part B) (fill part S ++ (t ++ fill part A')) := by
    simp [place]
  rw [split] at pass
  rw [pass.eq_between, fill_append]

/-- What a search finds is what the term prefers in a part of the sketch that holds the match. -/
theorem Spot.exists_prefers (noLook : r.hasLook = false)
    (enough : r.automaton.fuel (place part B A).after ≤ fuel)
    (found : r.automaton.firstFrom? fuel (place part B A) = some m)
    (spot : Spot part B A m S t A') {A'' : Sketch} (wider : t <+: s)
    (split : A = S ++ plain s ++ A'') :
    ∃ m', r.Prefers s m' ∧ m = m'.within (fill part (B ++ S)) (fill part A'') := by
  have behind : t ++ fill part A' = s ++ fill part A'' := by
    have same := spot.split.symm.trans split
    rw [List.append_assoc, List.append_assoc] at same
    simpa using congrArg (fill part) (List.append_cancel_left same)
  refine Regex.firstFrom?_within noLook enough found (behind ▸ spot.start) ?_
  obtain ⟨more, rfl⟩ := wider
  have offset : m.whole.start.offset = Text.utf8Size (fill part (B ++ S)) := by
    rw [spot.start]
    rfl
  have stop := spot.passes.offset
  rw [Text.utf8Size_append]
  omega

/-- Where a match lies, the term reads something, whatever fills the gaps. -/
theorem Spot.exists_reads (noLook : r.hasLook = false)
    (enough : r.automaton.fuel (place part B A).after ≤ fuel)
    (found : r.automaton.firstFrom? fuel (place part B A) = some m)
    (spot : Spot part B A m S t A') (part' : Text) :
    ∃ q marks stop, (place part' B A).Passes (fill part' S) q ∧ r.Reads q marks stop ∧
      q.offset = Text.utf8Size (fill part' (B ++ S)) := by
  obtain ⟨m', prefers, -⟩ := spot.exists_prefers noLook enough found List.prefix_rfl spot.split
  obtain ⟨marks, reads, -⟩ := prefers.matches.reads
  have there : r.Reads (m'.whole.start.within (fill part' (B ++ S)) (fill part' A')) _ _ :=
    reads.within noLook
  rw [prefers.start, Cursor.start_eq, Cursor.within_between, List.append_nil] at there
  refine ⟨_, _, _, ?_, there, rfl⟩
  rw [spot.split, place, fill_append, fill_append, fill_append, List.append_assoc, fill_plain]
  exact Cursor.between_passes _ _ _

/-- The first match in one filled sketch does not lie behind the first match in another one. -/
theorem Spot.not_behind (noLook : r.hasLook = false) (proper' : part' ≠ [])
    (enough : r.automaton.fuel (place part B A).after ≤ fuel)
    (enough' : r.automaton.fuel (place part' B A).after ≤ fuel')
    (found : r.automaton.firstFrom? fuel (place part B A) = some m)
    (found' : r.automaton.firstFrom? fuel' (place part' B A) = some m')
    {S' : Sketch} {t' : Text} {A'' : Sketch} (spot : Spot part B A m S t A')
    (spot' : Spot part' B A m' S' t' A'') : S' <+: S := by
  obtain ⟨q, marks, stop, pass, reads, offset⟩ :=
    spot.exists_reads noLook enough found part'
  have first := Regex.noneBefore_of_firstFrom? enough' found'
  have notLess : ¬ q.offset < m'.whole.start.offset := fun less =>
    first _ q marks stop pass less reads
  have offset' : m'.whole.start.offset = Text.utf8Size (fill part' (B ++ S')) := by
    rw [spot'.start]
    rfl
  have le : Text.utf8Size (fill part' S') ≤ Text.utf8Size (fill part' S) := by
    rw [fill_append, Text.utf8Size_append] at offset offset'
    omega
  exact prefix_of_size_le proper' spot'.begins spot.begins le

/-- Two matches that read the same text at the same place, in a sketch that is filled in two
ways. -/
inductive Twins (part part' : Text) (B : Sketch) (t : Text) (A : Sketch) : Match → Match → Prop where
  | within {m : Match} : m.whole.start = .start t → m.whole.stop = .between t [] →
      (∀ n e, m.group? n = some e → e.Inside t) →
      Twins part part' B t A (m.within (fill part B) (fill part A))
        (m.within (fill part' B) (fill part' A))

theorem Twins.of_prefers (prefers : r.Prefers t m) (stop : m.whole.stop = .between t []) :
    Twins part part' B t A (m.within (fill part B) (fill part A))
      (m.within (fill part' B) (fill part' A)) :=
  .within prefers.start stop fun _ _ => prefers.inside_group

/-- What two searches find in a sketch that is filled in two ways, if they touch no gap. -/
inductive Found (part part' : Text) (B : Sketch) : Sketch → Option Match → Option Match → Prop where
  | none {A : Sketch} : Found part part' B A none none
  | some {m m' : Match} (S : Sketch) (t : Text) (A : Sketch) :
      Twins part part' (B ++ S) t A m m' →
      Found part part' B (S ++ plain t ++ A) (some m) (some m')

/-- What a term prefers ends where the match ends. -/
theorem Spot.stop_eq (spot : Spot part B A m S t A') (prefers : r.Prefers t m')
    (within : m = m'.within (fill part (B ++ S)) (fill part A')) :
    m'.whole.stop = .between t [] := by
  obtain ⟨u, pass⟩ := prefers.matches.passes
  rw [prefers.start] at pass
  refine pass.eq_of_offset (Cursor.start_passes t) ?_
  have stop := spot.passes.offset
  rw [spot.start, within] at stop
  have stop : Text.utf8Size (fill part (B ++ S)) + m'.whole.stop.offset =
    Text.utf8Size (fill part (B ++ S)) + Text.utf8Size t := stop
  exact Nat.add_left_cancel stop

/-- Two searches of a sketch that is filled in two ways find the same if they touch no gap. -/
theorem found (noLook : r.hasLook = false) (proper : part ≠ []) (proper' : part' ≠ [])
    (enough : r.automaton.fuel (place part B A).after ≤ fuel)
    (enough' : r.automaton.fuel (place part' B A).after ≤ fuel') {o o' : Option Match}
    (here : r.automaton.firstFrom? fuel (place part B A) = o)
    (there : r.automaton.firstFrom? fuel' (place part' B A) = o')
    (avoids : ∀ m ∈ o, m.whole.Avoids part) (avoids' : ∀ m ∈ o', m.whole.Avoids part') :
    Found part part' B A o o' := by
  have spotOf {part : Text} {fuel : Nat} {m : Match} (proper : part ≠ [])
      (here : r.automaton.firstFrom? fuel (place part B A) = some m)
      (avoids : m.whole.Avoids part) : ∃ S t A', Spot part B A m S t A' := by
    obtain ⟨isMatch, s, pass⟩ := Automaton.firstFrom?_sound here
    exact exists_spot proper isMatch pass avoids
  cases o with
  | none =>
    cases o' with
    | none => exact .none
    | some m' =>
      obtain ⟨S, t, A', spot⟩ := spotOf proper' there (avoids' m' rfl)
      obtain ⟨q, marks, stop, pass, reads, -⟩ := spot.exists_reads noLook enough' there part
      exact absurd reads (Regex.noneFrom_of_firstFrom? enough here _ q marks stop pass)
  | some m =>
    obtain ⟨S, t, A', spot⟩ := spotOf proper here (avoids m rfl)
    cases o' with
    | none =>
      obtain ⟨q, marks, stop, pass, reads, -⟩ := spot.exists_reads noLook enough here part'
      exact absurd reads (Regex.noneFrom_of_firstFrom? enough' there _ q marks stop pass)
    | some m' =>
      obtain ⟨S', t', A'', spot'⟩ := spotOf proper' there (avoids' m' rfl)
      have first := spot.not_behind noLook proper' enough enough' here there spot'
      have second := spot'.not_behind noLook proper enough' enough there here spot
      obtain rfl : S = S' := second.eq_of_length_le first.length_le
      have same := spot.split.symm.trans spot'.split
      rw [List.append_assoc, List.append_assoc] at same
      rcases prefix_or_prefix (List.append_cancel_left same) with shorter | longer
      · obtain ⟨m₁, prefers, rfl⟩ :=
          spot.exists_prefers noLook enough here shorter spot'.split
        obtain ⟨m₂, prefers', within⟩ :=
          spot'.exists_prefers noLook enough' there List.prefix_rfl spot'.split
        obtain rfl := prefers.unique prefers'
        rw [within, spot'.split]
        exact .some S t' A'' (.of_prefers prefers (spot'.stop_eq prefers within))
      · obtain ⟨m₁, prefers, within⟩ :=
          spot.exists_prefers noLook enough here List.prefix_rfl spot.split
        obtain ⟨m₂, prefers', rfl⟩ :=
          spot'.exists_prefers noLook enough' there longer spot.split
        obtain rfl := prefers.unique prefers'
        rw [within, spot.split]
        exact .some S t A' (.of_prefers prefers (spot.stop_eq prefers within))

/-! ## The same match in two texts -/

namespace Twins

theorem symm (h : Twins part part' B t A m m') : Twins part' part B t A m' m := by
  obtain @⟨m, start, stop, inside⟩ := h
  exact .within start stop inside

theorem start_eq (h : Twins part part' B t A m m') :
    m.whole.start = .between (fill part B) (t ++ fill part A) := by
  obtain @⟨m, start, -, -⟩ := h
  rw [Match.within, Extent.within, start, Cursor.start_eq, Cursor.within_between, List.append_nil]

theorem stop_eq (h : Twins part part' B t A m m') :
    m.whole.stop = place part (B ++ plain t) A := by
  obtain @⟨m, -, stop, -⟩ := h
  rw [Match.within, Extent.within, stop, Cursor.within_between, place, fill_append, fill_plain]
  rfl

theorem parallel (h : Twins part part' B t A m m') : m.Parallel part part' m' := by
  obtain @⟨m, start, stop, inside⟩ := h
  have group {root : Text} {index : Nat} {e : Option Extent} (here : m.group? index = e) :
      (m.within (fill root B) (fill root A)).group? index =
        e.map (Extent.within (fill root B) (fill root A)) := by
    rw [Match.group?_within, here]
  refine ⟨.within B A (t := t) ⟨⟨[], ?_⟩, t, ?_⟩, fun rule index => ?_, fun rule index => ?_⟩
  · rw [start]
    exact .refl _
  · rw [stop]
    exact Cursor.start_passes t
  · cases here : m.group? index with
    | none => rw [Match.capture_eq_error rule (group here), Match.capture_eq_error rule (group here)]
    | some e =>
      have within := inside index e here
      rw [Match.capture_eq_ok rule (group here), Match.capture_eq_ok rule (group here),
        within.text_within, within.text_within]
  · cases here : m.group? index with
    | none =>
      rw [Match.captureSpan_eq_error rule (group here), Match.captureSpan_eq_error rule (group here)]
      exact .error _
    | some e =>
      rw [Match.captureSpan_eq_ok rule (group here), Match.captureSpan_eq_ok rule (group here)]
      exact .ok (.within B A (inside index e here))

/-- What follows a match in one text follows it in the other one, if it touches no gap. -/
theorem follows (h : Twins part part' B t A m m') (proper : part ≠ []) {rest : Text}
    (behind : m.whole.stop.after = s ++ rest) (avoids : (m.whole.append s).Avoids part) :
    ∃ rest', m'.whole.stop.after = s ++ rest' := by
  have stop := h.stop_eq
  have whole : fill part A = [] ++ s ++ rest := by
    rw [List.nil_append, ← behind, stop]
    rfl
  have size := List.length_pos_iff.2 proper
  obtain ⟨B', A', rfl, none, -⟩ := exists_split proper whole fun x y occurs => by
    have text : m.whole.start.before.reverse ++ m.whole.start.after =
        (fill part B ++ t ++ x) ++ part ++ y := by
      rw [h.start_eq, Cursor.between, List.reverse_reverse, occurs]
      simp
    have apart := avoids _ _ text
    rw [Extent.append, stop, h.start_eq] at apart
    simp [place, Cursor.between] at apart
    rw [List.length_nil]
    omega
  obtain rfl := (fill_eq_nil_iff proper).1 none
  refine ⟨fill part' A', ?_⟩
  rw [h.symm.stop_eq]
  simp [place, Cursor.between]

end Twins

/-! ## Searches for all matches -/

/-- What two searches for all matches find in a sketch that is filled in two ways, if they touch no
gap. -/
inductive Scanned (part part' : Text) : Sketch → Sketch → List Match → List Match → Prop where
  | nil (B A : Sketch) : Scanned part part' B A [] []
  | cons {B A : Sketch} (S : Sketch) {t : Text} {m m' : Match} {ms ms' : List Match} :
      Twins part part' (B ++ S) t A m m' →
      Scanned part part' (B ++ S ++ plain t) A ms ms' →
      Scanned part part' B (S ++ plain t ++ A) (m :: ms) (m' :: ms')

/-- Two searches for all matches in a sketch that is filled in two ways find the same if they touch
no gap. -/
theorem scanned (noLook : r.hasLook = false) (proper : part ≠ []) (proper' : part' ≠ [])
    {ms ms' : List Match} (scans : r.Scans (place part B A) ms)
    (scans' : r.Scans (place part' B A) ms') (avoids : ∀ m ∈ ms, m.whole.Avoids part)
    (avoids' : ∀ m ∈ ms', m.whole.Avoids part') : Scanned part part' B A ms ms' := by
  induction ms generalizing B A ms' with
  | nil =>
    obtain ⟨enough, search⟩ | _ := scans
    cases scans' with
    | nil => exact .nil B A
    | cons enough' search' =>
      nomatch found noLook proper proper' enough enough' search search' nofun
        (fun | _, rfl => avoids' _ List.mem_cons_self)
  | cons m ms ih =>
    obtain _ | ⟨enough, search, rest⟩ := scans
    obtain ⟨here, others⟩ := List.forall_mem_cons.1 avoids
    cases scans' with
    | nil enough' search' =>
      nomatch found noLook proper proper' enough enough' search search'
        (fun | _, rfl => here) nofun
    | cons enough' search' rest' =>
      obtain ⟨there, others'⟩ := List.forall_mem_cons.1 avoids'
      obtain _ | ⟨S, t, A, twins⟩ := found noLook proper proper' enough enough' search search'
        (fun | _, rfl => here) (fun | _, rfl => there)
      rw [twins.stop_eq] at rest
      rw [twins.symm.stop_eq] at rest'
      exact .cons S twins (ih rest rest' others others')

/-- Replacing what two searches find leaves texts with one sketch. -/
theorem Scanned.replaceMatches {ms ms' : List Match} (h : Scanned part part' B A ms ms')
    {render render' : Match → Except PatchError Text}
    (alike : ∀ m m', m.Parallel part part' m' →
      Except.Alike (Fills part part') (render m) (render' m')) :
    Except.Alike (Fills part part') (HookGraft.replaceMatches render (place part B A) ms)
      (HookGraft.replaceMatches render' (place part' B A) ms') := by
  induction h with
  | nil B A => exact .ok ⟨A, rfl, rfl⟩
  | @cons B A S t m m' ms ms' twins _ ih =>
    have skipped {part part' : Text} {m m' : Match} (twins : Twins part part' (B ++ S) t A m m') :
        Extent.text ⟨place part B (S ++ plain t ++ A), m.whole.start⟩ = fill part S := by
      rw [twins.start_eq, place, fill_append, fill_append, fill_append, List.append_assoc,
        fill_plain]
      exact (Cursor.between_passes _ _ _).extent_text
    simp only [HookGraft.replaceMatches]
    refine (alike m m' twins.parallel).andThen fun new new' here => ?_
    rw [twins.stop_eq, twins.symm.stop_eq]
    refine ih.andThen fun behind behind' rest => ?_
    rw [skipped twins, skipped twins.symm]
    exact .ok ((Fills.append ⟨S, rfl, rfl⟩ here).append rest)

theorem Scanned.length_eq {ms ms' : List Match} (h : Scanned part part' B A ms ms') :
    ms.length = ms'.length := by
  induction h with
  | nil => rfl
  | cons _ _ _ ih => rw [List.length_cons, List.length_cons, ih]

/-- What is accepted of what two searches find is the same if each match is accepted in both texts
or in none. -/
theorem Scanned.filter {ms ms' : List Match} {accept : Match → Bool}
    (h : Scanned part part' B A ms ms')
    (agree : ∀ m ∈ ms, ∀ m' ∈ ms', ∀ B t A, Twins part part' B t A m m' → accept m = accept m') :
    List.Forall₂ (Match.Parallel part part') (ms.filter accept) (ms'.filter accept) := by
  induction h with
  | nil => exact .nil
  | @cons B A S t m m' ms ms' twins _ ih =>
    have same := agree m List.mem_cons_self m' List.mem_cons_self _ _ _ twins
    have rest := ih fun m member m' member' =>
      agree m (List.mem_cons_of_mem _ member) m' (List.mem_cons_of_mem _ member')
    rw [List.filter_cons, List.filter_cons, ← same]
    split
    · exact .cons twins.parallel rest
    · exact rest

end Search

end Sketch

end HookGraft

import HookGraft.Proofs.Edit
import HookGraft.Proofs.Regex.Evaluation
import HookGraft.Proofs.Regex.Language
import HookGraft.Proofs.Rule.Definition
import HookGraft.Proofs.Rule.ResetBlock

/-!
# Which routine the reset state rule takes apart

The signature of the rule begins with a definition and leaves characters open in some places. If
these hold neither a brace nor a definition, then the fragment is one routine and its slots are
slots. The rule does not check this: a definition that ends shortly before the routine is taken for
its beginning, and what stands between the two becomes part of the first slot.

## Main definitions

* `ResetState.Stretch`: a fragment of the signature, by its open places
* `ResetState.IsSlot`: a text that is not the end of one routine and the beginning of another

## Main results

* `ResetState.takes_single_apart`: when the fragment is a single routine
* `ResetState.takes_neighbour_apart`: the fragment may begin with the routine before
-/

namespace HookGraft.ResetState

open Discovery Regex

/-- A text that holds neither a brace nor the beginning of a definition. -/
structure IsSlot (slot : Text) : Prop where
  opening : '\x7b' ∉ slot
  closing : '\x7d' ∉ slot
  noDefinition : ¬ "function".toList <:+: slot

/-! ## Fragments of the signature -/

/-- What stands in the open places of the signature. -/
structure Stretch where
  /-- in the place of the name -/
  head : Text
  /-- before the slots -/
  beforeSlots : Text
  /-- in the place of a slot -/
  first : Text
  firstIndex : Text
  second : Text
  secondIndex : Text
  /-- before the routine that takes a flag -/
  beforeFlag : Text
  flagged : Text
  /-- before the other routines -/
  beforeCalls : Text
  third : Text
  fourth : Text
  /-- before the brace -/
  rest : Text
  lengths : ∀ t ∈ [head, first, second, flagged, third, fourth], t.length = 3
  short : ∀ t ∈ [beforeSlots, beforeFlag, beforeCalls], t.length ≤ 40
  digits : ∀ t ∈ [firstIndex, secondIndex], ∀ d ∈ t, CharClass.digit.contains d = true

namespace Stretch

variable (s : Stretch)

/-- The parts of what stands between the braces. -/
def parts : List Text := [
  s.beforeSlots,
  s.first ++ '[' :: (s.firstIndex ++ "]=-1;".toList) ++
    (s.second ++ '[' :: (s.secondIndex ++ "]=-1;".toList)),
  s.beforeFlag, s.flagged ++ "(true);".toList,
  s.beforeCalls, s.third ++ "();".toList ++ (s.fourth ++ "();".toList), s.rest]

/-- The fragment. -/
def text : Text :=
  keyword ++ (s.head ++ '(' :: ')' :: '\x7b' :: (s.parts ++ [['\x7d']]).flatten)

/-- The places in which a definition may begin. -/
def gaps : List Text := [
  s.beforeSlots ++ s.first, s.beforeFlag ++ s.flagged, s.beforeCalls ++ s.third, s.rest]

/-- All places between the braces. -/
def places : List Text := [
  s.beforeSlots, s.first, s.second, s.beforeFlag, s.flagged, s.beforeCalls, s.third, s.fourth,
  s.rest]

end Stretch

theorem of_threeBefore {r : Regex} {rs : List Regex} {t : Text}
    (h : (threeBefore (r :: rs)).Spells t) :
    ∃ w u, w.length = 3 ∧ (inOrder (r :: rs)).Spells u ∧ t = w ++ u := by
  obtain ⟨_, _, one, behind, rfl⟩ := Spells.of_seq h
  obtain ⟨_, _, two, behind', rfl⟩ := Spells.of_seq behind
  obtain ⟨_, u, three, others, rfl⟩ := Spells.of_seq behind'
  obtain ⟨c, -, rfl⟩ := one.of_char
  obtain ⟨d, -, rfl⟩ := two.of_char
  obtain ⟨e, -, rfl⟩ := three.of_char
  exact ⟨[c, d, e], u, rfl, others, rfl⟩

theorem of_clearing {t : Text} (h : (group 1 clearing).Spells t) : ∃ w index, w.length = 3 ∧
    (∀ d ∈ index, CharClass.digit.contains d = true) ∧
      t = w ++ '[' :: (index ++ "]=-1;".toList) := by
  obtain ⟨w, u, three, behind, rfl⟩ := of_threeBefore h.of_group
  obtain ⟨_, _, opening, behind', rfl⟩ := Spells.of_seq behind
  obtain ⟨index, _, digits, closing, rfl⟩ := Spells.of_seq behind'
  exact ⟨w, index, three, digits.of_repeated_char, by rw [opening.of_text, closing.of_text]; rfl⟩

/-- What a repetition of two rounds reads comes in two parts. -/
theorem of_twice {r : Regex} {t : Text} {greedy : Bool} (h : (repeated r 2 (some 2) greedy).Spells t) :
    ∃ s u, r.Spells s ∧ r.Spells u ∧ t = s ++ u := by
  obtain ⟨ts, two, two', parts, rfl⟩ := h.of_repeated
  match ts, two, two', parts with
  | [s, u], _, _, parts => exact ⟨s, u, parts s (by simp), parts u (by simp), by simp⟩

/-- A fragment of the signature has its open places. -/
theorem exists_stretch {t : Text} (h : (inOrder routineParts).Spells t) :
    ∃ s : Stretch, t = s.text := by
  obtain ⟨ts, parts, rfl⟩ := Spells.of_inOrder h
  simp only [routineParts, List.forall₂_cons_left_iff, List.forall₂_nil_left_iff] at parts
  obtain ⟨_, _, start, ⟨_, _, one, ⟨_, _, two, ⟨_, _, three, ⟨_, _, opening, ⟨beforeSlots, _,
    gap₁, ⟨_, _, cleared, ⟨beforeFlag, _, gap₂, ⟨_, _, flag, ⟨beforeCalls, _, gap₃, ⟨_, _, calls,
    ⟨rest, _, tail, ⟨_, _, last, rfl, rfl⟩, rfl⟩, rfl⟩, rfl⟩, rfl⟩, rfl⟩, rfl⟩, rfl⟩, rfl⟩, rfl⟩,
    rfl⟩, rfl⟩, rfl⟩ := parts
  obtain ⟨c₁, -, rfl⟩ := one.of_char
  obtain ⟨c₂, -, rfl⟩ := two.of_char
  obtain ⟨c₃, -, rfl⟩ := three.of_char
  obtain ⟨_, _, slot₁, slot₂, rfl⟩ := of_twice cleared
  obtain ⟨first, firstIndex, length₁, digits₁, rfl⟩ := of_clearing slot₁
  obtain ⟨second, secondIndex, length₂, digits₂, rfl⟩ := of_clearing slot₂
  obtain ⟨flagged, _, length₃, true, rfl⟩ := of_threeBefore flag.of_group
  obtain ⟨_, _, call₁, call₂, rfl⟩ := of_twice calls
  obtain ⟨third, _, length₄, closing, rfl⟩ := of_threeBefore call₁.of_group
  obtain ⟨fourth, _, length₅, closing', rfl⟩ := of_threeBefore call₂.of_group
  have short₁ : beforeSlots.length ≤ 40 := gap₁.length_le_of_repeated_char (by decide)
  have short₂ : beforeFlag.length ≤ 40 := gap₂.length_le_of_repeated_char (by decide)
  have short₃ : beforeCalls.length ≤ 40 := gap₃.length_le_of_repeated_char (by decide)
  obtain rfl := start.of_text
  obtain rfl := opening.of_text
  obtain rfl := true.of_text
  obtain rfl := closing.of_text
  obtain rfl := closing'.of_text
  obtain rfl := last.of_text
  refine ⟨{
    head := [c₁, c₂, c₃], beforeSlots, first, firstIndex, second, secondIndex, beforeFlag, flagged
    beforeCalls, third, fourth, rest
    lengths := by simp [length₁, length₂, length₃, length₄, length₅]
    short := by simp [short₁, short₂, short₃]
    digits := by simpa using ⟨digits₁, digits₂⟩ }, ?_⟩
  rfl

/-- A word in the characters of the keyword, longer than a name, begins in one of the open places. -/
theorem Stretch.infix_parts_iff (s : Stretch) {w : Text} (sub : w ⊆ keyword) (f : 'f' ∈ w)
    (long : 3 < w.length) : w <:+: s.parts.flatten ↔ ∃ gap ∈ s.gaps, w <:+: gap := by
  have across {t u : Text} {c : Char} (free : c ∉ keyword) :
      w <:+: t ++ c :: u ↔ w <:+: t ∨ w <:+: u :=
    Text.infix_append_cons_iff (mt (@sub c) free)
  have gap {t t' u : Text} {c : Char} (free : c ∉ keyword) :
      w <:+: t ++ (t' ++ c :: u) ↔ w <:+: t ++ t' ∨ w <:+: u := by
    rw [← List.append_assoc, across free]
  have proper : w ≠ [] := List.ne_nil_of_length_pos (by omega)
  have behind {t : Text} {c : Char} (free : c ∉ keyword) : w <:+: c :: t ↔ w <:+: t :=
    Text.infix_cons_iff_of_not_mem (mt (@sub c) free) proper
  have wildcard {t : Text} (three : t.length = 3) : ¬ w <:+: t := fun inside => by
    have := inside.length_le
    omega
  have index {t : Text} (digits : ∀ d ∈ t, CharClass.digit.contains d = true) : ¬ w <:+: t :=
    fun inside => by
      have := digits 'f' (inside.subset f)
      revert this
      decide
  have flag : ¬ w <:+: "true".toList := fun inside => absurd (inside.subset f) (by decide)
  have second := wildcard (s.lengths s.second (by simp))
  have fourth := wildcard (s.lengths s.fourth (by simp))
  have firstIndex := index (s.digits s.firstIndex (by simp))
  have secondIndex := index (s.digits s.secondIndex (by simp))
  have split : "(true);".toList = '(' :: ("true".toList ++ [')', ';']) := rfl
  rw [parts, split]
  generalize "true".toList = true at flag
  simp only [List.flatten_cons, List.flatten_nil, List.append_assoc, List.cons_append,
    List.nil_append, String.reduceToList, List.append_nil]
  simp (disch := decide) only [behind, gap, across]
  simp [gaps, second, fourth, firstIndex, secondIndex, flag]

/-- When the routine that the fragment begins with encloses it. -/
theorem Stretch.encloses_text_iff (s : Stretch) (plain : isPlainName (s.head.headBefore '(') = true) :
    Encloses (s.head.headBefore '(') s.text ↔
      '(' ∉ s.head ∧ ∀ gap ∈ s.gaps, ¬ keyword <:+: gap := by
  have proper : keyword ≠ [] := by decide
  have behind : s.text =
      keyword ++ (s.head ++ ("()".toList ++ '\x7b' :: (s.parts ++ [['\x7d']]).flatten)) := rfl
  have inside : keyword <:+: '\x7b' :: (s.parts ++ [['\x7d']]).flatten ↔
      ∃ gap ∈ s.gaps, keyword <:+: gap := by
    rw [Text.infix_cons_iff_of_not_mem (by decide) proper, List.flatten_append,
      List.flatten_singleton, Text.infix_append_cons_iff (by decide), List.infix_nil,
      or_iff_left proper, s.infix_parts_iff (List.Subset.refl _) (by decide) (by decide)]
  rw [behind, encloses_iff (s.lengths s.head (by simp)) plain, inside]
  simp only [not_exists, not_and]

/-- There is no brace between those of the routine if there is none in the open places. -/
theorem Stretch.brace_not_mem (s : Stretch) {brace : Char} (isBrace : brace = '\x7b' ∨ brace = '\x7d')
    (none : ∀ place ∈ s.places, brace ∉ place) : brace ∉ s.parts.flatten := by
  have index {t : Text} (digits : ∀ d ∈ t, CharClass.digit.contains d = true) : brace ∉ t :=
    fun inside => by
      have := digits brace inside
      rcases isBrace with rfl | rfl <;> (revert this; decide)
  have firstIndex := index (s.digits s.firstIndex (by simp))
  have secondIndex := index (s.digits s.secondIndex (by simp))
  simp only [places, List.forall_mem_cons] at none
  rcases isBrace with rfl | rfl <;> simp [parts, none, firstIndex, secondIndex]

/-- The name holds no parenthesis, no open place holds a brace, and no definition begins in one. -/
structure Stretch.IsPlain (s : Stretch) : Prop where
  head : '(' ∉ s.head
  opening : ∀ place ∈ s.places, '\x7b' ∉ place
  closing : ∀ place ∈ s.places, '\x7d' ∉ place
  noDefinition : ∀ gap ∈ s.gaps, ¬ "function".toList <:+: gap

/-! ## Slots -/

/-- A slot is a part of the body of the routine. -/
theorem infix_of_mem_slots {rule : String} {fragment slot : Text} {shape : ResetShape}
    (h : ResetShape.ofFragment rule fragment = .ok shape) (member : slot ∈ shape.slots) :
    ∃ body, routineBody rule fragment = .ok body ∧ slot <:+: body := by
  obtain ⟨body, isBody, calls, canonical⟩ := ResetShape.ofFragment_eq_ok_iff.1 h
  refine ⟨body, routineBody_eq_ok_iff.2 isBody, ?_⟩
  have cleared : ResetShape.clearing slot ∈ ResetShape.ownStatements body := by
    rw [canonical.statements_eq]
    exact List.mem_append_left _ (List.mem_map_of_mem member)
  have piece := Text.infix_of_mem_pieces (List.mem_of_mem_filter cleared)
  exact (List.prefix_append slot _).isInfix.trans piece

/-- If the open places are plain, then so is each slot. -/
theorem Stretch.isSlot_of_mem_slots (s : Stretch) (isPlain : s.IsPlain)
    (plain : isPlainName (s.head.headBefore '(') = true) {rule : String} {shape : ResetShape}
    (h : ResetShape.ofFragment rule s.text = .ok shape) {slot : Text} (member : slot ∈ shape.slots) :
    IsSlot slot := by
  obtain ⟨body, found, within⟩ := infix_of_mem_slots h member
  have noBrace : '\x7b' ∉ keyword ++ (s.head ++ ['(', ')']) := by
    rw [Text.headBefore_of_not_mem isPlain.head] at plain
    simp only [List.mem_append, not_or]
    exact ⟨by decide, brace_not_mem_of_isPlainName plain, by decide⟩
  have split : s.text =
      keyword ++ (s.head ++ ['(', ')']) ++ '\x7b' :: (s.parts.flatten ++ ['\x7d']) := by
    simp [text, List.flatten_append]
  rw [split] at found
  have inside : slot <:+: s.parts.flatten :=
    within.trans (prefix_of_routineBody noBrace found).isInfix
  have noDefinition : ¬ "function".toList <:+: s.parts.flatten := by
    rw [s.infix_parts_iff (by decide) (by decide) (by decide)]
    rintro ⟨gap, isGap, begins⟩
    exact isPlain.noDefinition gap isGap begins
  exact {
    opening := fun brace => s.brace_not_mem (.inl rfl) isPlain.opening (inside.subset brace)
    closing := fun brace => s.brace_not_mem (.inr rfl) isPlain.closing (inside.subset brace)
    noDefinition := fun begins => noDefinition (begins.trans inside) }

/-! ## What is bound -/

variable {selection update : List String} {resetRule : Rule} {text : Text} {b b' : Bindings}
  {o : RuleOutcome}

/-- A capability that is paired with pieces has one of them bound to its name. -/
theorem exists_piece {named : String → String} {pieces : List Text} {capability : String}
    (enough : capability ∈ (pieces.zip selection).map Prod.snd) :
    ∃ piece ∈ pieces,
      (b.bindAll ((pieces.zip selection).map fun x => (named x.2, x.1))).get? (named capability) =
        some piece := by
  have isName : named capability ∈
      ((pieces.zip selection).map fun x => (named x.2, x.1)).map Prod.fst := by
    obtain ⟨x, pair, rfl⟩ := List.mem_map.1 enough
    exact List.mem_map_of_mem (List.mem_map_of_mem pair)
  obtain ⟨piece, isEntry, bound⟩ := Bindings.exists_get?_bindAll isName
  obtain ⟨x, pair, same⟩ := List.mem_map.1 isEntry
  obtain rfl := (Prod.mk.inj same).2
  exact ⟨x.1, (List.of_mem_zip pair).1, bound⟩

/-- What the rule binds: the name of the routine, and a slot for each capability. -/
theorem bound_of_apply (made : rule? selection update = .ok resetRule)
    (done : (resetRule.apply text).on b = (.ok o, b')) :
    ∃ m routine shape, locate b text = .ok m ∧ routineName name m.whole.text = .ok routine ∧
      ResetShape.ofFragment name m.whole.text = .ok shape ∧
      b'.get? Identifier.resetRoutine = some routine ∧
      ∀ capability ∈ selection, ∃ slot ∈ shape.slots,
        b'.get? (Identifier.selection capability) = some slot := by
  obtain ⟨m, routine, shape, root, outcome⟩ := exists_of_apply made done
  obtain ⟨three, -, -⟩ := rule?_eq_ok made
  obtain ⟨slots, -⟩ := ResetShape.length_of_ofFragment outcome.apart
  refine ⟨m, routine, shape, outcome.located, outcome.named, outcome.apart, ?_,
    fun capability member => ?_⟩
  · have noPanel := update_ne (show ¬ "update.".toList <+: Identifier.resetRoutine.toList by decide)
    have noSelection :=
      selection_ne (show ¬ "selection.".toList <+: Identifier.resetRoutine.toList by decide)
    rw [outcome.bound, Bindings.get?_bindAll_of_not_mem, Bindings.get?_bindAll_of_not_mem,
      Bindings.get?_bind_self]
    · simp [noPanel]
    · simp [noSelection]
  · rw [← List.map_snd_zip (Nat.le_of_eq (three.trans slots.symm))] at member
    rw [outcome.bound]
    exact exists_piece member

/-- If the rule succeeds, the reset routine that it binds is named by what stands in the place of
the name, up to a parenthesis. It encloses the fragment just if there is no parenthesis and no other
definition begins in the places that the signature leaves open. If these are plain, then so are the
slots that are bound. -/
theorem takes_single_apart (made : rule? selection update = .ok resetRule)
    (done : (resetRule.apply text).on b = (.ok o, b')) :
    ∃ m routine, ∃ s : Stretch, locate b text = .ok m ∧
      b'.get? Identifier.resetRoutine = some routine ∧
      m.whole.text = s.text ∧ routine = s.head.headBefore '(' ∧
      (Encloses routine m.whole.text ↔ '(' ∉ s.head ∧ ∀ gap ∈ s.gaps, ¬ keyword <:+: gap) ∧
      ∀ capability ∈ selection, ∃ slot, b'.get? (Identifier.selection capability) = some slot ∧
        (s.IsPlain → IsSlot slot) := by
  obtain ⟨m, routine, shape, located, named, apart, bound, slots⟩ := bound_of_apply made done
  obtain ⟨locator, compiled, search⟩ := Except.bind_eq_ok.1 located
  rw [compile_routine] at compiled
  obtain rfl := Except.ok.inj compiled
  obtain ⟨isMatch, -⟩ := Locator.first_sound search
  obtain ⟨s, fragment⟩ := exists_stretch isMatch.spells
  rw [fragment] at named apart
  have split : s.text =
      keyword ++ (s.head ++ '(' :: ')' :: '\x7b' :: (s.parts ++ [['\x7d']]).flatten) := rfl
  rw [split] at named
  obtain ⟨rfl, plain⟩ := routineName_eq_ok named
  refine ⟨m, _, s, located, bound, fragment, rfl, ?_, fun capability member => ?_⟩
  · rw [fragment]
    exact s.encloses_text_iff plain
  · obtain ⟨slot, among, isBound⟩ := slots capability member
    exact ⟨slot, isBound, fun isPlain => s.isSlot_of_mem_slots isPlain plain apart among⟩

/-! ## A sample -/

/-- Names of slots. -/
def sampleSelection : List String := ["Body", "Spawn", "CapZone"]

/-- Names of panels. -/
def sampleUpdate : List String :=
  ["LeftBox", "RightBoxBody", "Renderer", "Warnings", "UndoButtons", "ModeDropdown"]

/-- A reset routine. -/
def sampleRoutine : Text :=
  [ "function j0Z()\x7bz5i[977]=-1;z5i[450]=-1;z5i[462]=-1;",
    "p4Z();v4Z();n4V.a1V();B4Z(true);M4Z();y0Z();I6s();\x7d"].flatMap String.toList

/-- Another routine that stands directly before it. -/
def sampleNeighbour : Text := "function a0Z()\x7b\x7d".toList

/-- The routine and the first slot that are bound, and the fragment. -/
def boundIn? : Except PatchError Match → Except PatchError RuleOutcome × Bindings →
    Option (Text × Text × Text)
  | .ok m, (.ok _, b') =>
    match b'.get? Identifier.resetRoutine, b'.get? (Identifier.selection "Body") with
    | some routine, some slot => some (routine, slot, m.whole.text)
    | _, _ => none
  | _, _ => none

/-- The routine and the first slot that the rule binds, and the fragment. -/
def outcome? (text : Text) : Option (Text × Text × Text) :=
  boundIn? (locate (.seeded ['w']) text)
    ((apply sampleSelection sampleUpdate text).on (.seeded ['w']))

theorem outcome?_eq_some {routine slot fragment : Text}
    (h : outcome? text = some (routine, slot, fragment)) : ∃ o b' m,
      (apply sampleSelection sampleUpdate text).on (.seeded ['w']) = (.ok o, b') ∧
      locate (.seeded ['w']) text = .ok m ∧ b'.get? Identifier.resetRoutine = some routine ∧
      b'.get? (Identifier.selection "Body") = some slot ∧ m.whole.text = fragment := by
  rw [outcome?] at h
  generalize (apply sampleSelection sampleUpdate text).on (.seeded ['w']) = done at h ⊢
  generalize locate (.seeded ['w']) text = located at h ⊢
  simp only [boundIn?] at h
  split at h
  · rename_i m o b'
    split at h
    · rename_i routine' slot' bound bound'
      simp only [Option.some.injEq, Prod.mk.injEq] at h
      obtain ⟨rfl, rfl, rfl⟩ := h
      exact ⟨o, b', m, rfl, rfl, bound, bound', rfl⟩
    · contradiction
  · contradiction

/-- The sample is found with or without a neighbour, which is taken for its beginning. -/
theorem outcome?_sample {before : Text} (known : before = [] ∨ before = sampleNeighbour) :
    outcome? (before ++ sampleRoutine) =
      some (if before = [] then "j0Z".toList else "a0Z".toList,
        if before = [] then "z5i[977]".toList else "\x7dfunction j0Z()\x7bz5i[977]".toList,
        before ++ sampleRoutine) := by
  simp only [outcome?, locate, apply, compile_routine, Locator.first, Regex.first?_eq_evaluate]
  rcases known with rfl | rfl
  · decide +kernel
  · decide +kernel

/-- The rule takes the sample apart, which is a single routine. -/
theorem takes_sample_apart : ∃ o b' m routine, ∃ s : Stretch,
    rule? sampleSelection sampleUpdate = .ok (ruleFor sampleSelection sampleUpdate) ∧
      ((ruleFor sampleSelection sampleUpdate).apply sampleRoutine).on (.seeded ['w']) =
        (.ok o, b') ∧
      locate (.seeded ['w']) sampleRoutine = .ok m ∧
      b'.get? Identifier.resetRoutine = some routine ∧
      m.whole.text = s.text ∧ routine = s.head.headBefore '(' ∧
      (Encloses routine m.whole.text ↔ '(' ∉ s.head ∧ ∀ gap ∈ s.gaps, ¬ keyword <:+: gap) ∧
      ∀ capability ∈ sampleSelection, ∃ slot,
        b'.get? (Identifier.selection capability) = some slot ∧ (s.IsPlain → IsSlot slot) := by
  obtain ⟨o, b', -, done, -⟩ := outcome?_eq_some (outcome?_sample (.inl rfl))
  have made := rule?_of_length (show sampleSelection.length = ResetShape.slotCount from rfl)
    (show sampleUpdate.length = ResetShape.updateCount from rfl)
  obtain ⟨m, routine, s, found⟩ := takes_single_apart made done
  exact ⟨o, b', m, routine, s, made, done, found⟩

/-- Two routines are taken apart as if they were one. The routine that is bound resets nothing, and
the end of it and the beginning of the other are taken for a slot. -/
theorem takes_neighbour_apart : ∃ o b' m slot,
    (apply sampleSelection sampleUpdate (sampleNeighbour ++ sampleRoutine)).on (.seeded ['w']) =
        (.ok o, b') ∧
      locate (.seeded ['w']) (sampleNeighbour ++ sampleRoutine) = .ok m ∧
      b'.get? Identifier.resetRoutine = some "a0Z".toList ∧
      ¬ Encloses "a0Z".toList m.whole.text ∧
      b'.get? (Identifier.selection "Body") = some slot ∧
      '\x7b' ∈ slot ∧ '\x7d' ∈ slot ∧ "function".toList <:+: slot := by
  obtain ⟨o, b', m, done, located, bound, isSlot, fragment⟩ :=
    outcome?_eq_some (outcome?_sample (.inr rfl))
  refine ⟨o, b', m, _, done, located, bound, ?_, isSlot, by decide, by decide,
    Text.hasInfix_iff.1 (by decide)⟩
  intro encloses
  have another : Text.hasInfix keyword (m.whole.text.drop (keyword.length + 5)) = true := by
    rw [fragment]
    decide
  exact encloses.not_infix_drop (Text.hasInfix_iff.1 another)

end HookGraft.ResetState

import HookGraft.Proofs.Discovery
import HookGraft.Proofs.Edit
import HookGraft.Proofs.Pattern.Signature
import HookGraft.Proofs.Regex.Evaluation
import HookGraft.Proofs.Regex.Language
import HookGraft.Proofs.Rule.Definition

/-!
# Which routine the undo history rule registers

The signature of the rule begins with a definition and leaves characters open in four places, one
of which is the name. If the name holds no parenthesis and no other definition begins in the open
places, then the routine that is registered is the one that saves the snapshot. The rule does not
check this: a definition that ends shortly before the routine is taken for its beginning.

## Main definitions

* `UndoHistory.Snapshot`: a fragment of the signature, by its open places

## Main results

* `UndoHistory.registers_enclosing_iff`: when the routine that is registered encloses the fragment
* `UndoHistory.registers_neighbour`: the routine before it may be registered instead
-/

namespace HookGraft.UndoHistory

open Discovery Regex

/-- The fragment that the rule locates. -/
def locate (b : Bindings) (text : Text) : Except PatchError Match := do
  (← routine.compile name b).first text

/-! ## Fragments of the signature -/

/-- What stands in the open places of the signature. -/
structure Snapshot where
  /-- in the place of the name -/
  head : Text
  /-- before the oldest snapshot is dropped -/
  gap : Text
  /-- the index of the counter that is decreased -/
  trimmed : Text
  /-- the index of the list of snapshots -/
  stored : Text
  /-- before the call that serializes the map -/
  call : Text
  /-- the key of that call -/
  key : Text
  head_length : head.length = 3
  gap_length : gap.length ≤ 150
  call_length : call.length ≤ 40
  key_length : key.length ≤ 40
  trimmed_digits : ∀ d ∈ trimmed, CharClass.digit.contains d = true
  stored_digits : ∀ d ∈ stored, CharClass.digit.contains d = true

namespace Snapshot

variable (s : Snapshot) (container object : Text)

/-- The parts of what stands behind the name. -/
def parts : List Text := [
  "()\x7b".toList, s.gap, container ++ ['['], s.trimmed,
  "]--;\x7d".toList ++ (container ++ ['[']), s.stored, [']'], s.call, "](JSON[".toList, s.key,
  "](".toList ++ (object ++ [')'])]

/-- The fragment. -/
def text : Text := keyword ++ (s.head ++ (s.parts container object).flatten)

/-- The places in which a definition may begin. -/
def gaps : List Text := [s.gap, s.call, s.key]

end Snapshot

/-- A fragment of the signature has its open places. -/
theorem exists_snapshot {container object t : Text} (h : (routineTerm container object).Spells t) :
    ∃ s : Snapshot, t = s.text container object := by
  obtain ⟨ts, parts, rfl⟩ := Spells.of_inOrder h
  simp only [routineParts, List.forall₂_cons_left_iff, List.forall₂_nil_left_iff] at parts
  obtain ⟨_, _, start, ⟨_, _, one, ⟨_, _, two, ⟨_, _, three, ⟨_, _, opening, ⟨gap, _, inGap, ⟨_, _,
    first, ⟨trimmed, _, digits, ⟨_, _, dropped, ⟨stored, _, digits', ⟨_, _, bracket, ⟨call, _,
    inCall, ⟨_, _, json, ⟨key, _, inKey, ⟨_, _, last, rfl, rfl⟩, rfl⟩, rfl⟩, rfl⟩, rfl⟩, rfl⟩, rfl⟩,
    rfl⟩, rfl⟩, rfl⟩, rfl⟩, rfl⟩, rfl⟩, rfl⟩, rfl⟩ := parts
  obtain ⟨c₁, -, rfl⟩ := one.of_char
  obtain ⟨c₂, -, rfl⟩ := two.of_char
  obtain ⟨c₃, -, rfl⟩ := three.of_char
  have shortGap : gap.length ≤ 150 := inGap.length_le_of_repeated_char (by decide)
  have shortCall : call.length ≤ 40 := inCall.length_le_of_repeated_char (by decide)
  have shortKey : key.length ≤ 40 := inKey.length_le_of_repeated_char (by decide)
  obtain rfl := start.of_text
  obtain rfl := opening.of_text
  obtain rfl := first.of_text
  obtain rfl := dropped.of_text
  obtain rfl := bracket.of_text
  obtain rfl := json.of_text
  obtain rfl := last.of_text
  exact ⟨⟨[c₁, c₂, c₃], gap, trimmed, stored, call, key, rfl, shortGap, shortCall, shortKey,
    digits.of_repeated_char, digits'.of_repeated_char⟩, rfl⟩

theorem not_mem_of_digits {t : Text} (digits : ∀ d ∈ t, CharClass.digit.contains d = true) :
    ' ' ∉ t := fun member => by
  have := digits ' ' member
  revert this
  decide

variable {container object : Text}

/-- A definition behind the name begins in one of the open places. -/
theorem Snapshot.keyword_infix_iff (s : Snapshot) (noBlank : ' ' ∉ container)
    (noBlank' : ' ' ∉ object) :
    keyword <:+: (s.parts container object).flatten ↔ ∃ gap ∈ s.gaps, keyword <:+: gap := by
  have trimmed := not_keyword_infix (not_mem_of_digits s.trimmed_digits)
  have stored := not_keyword_infix (not_mem_of_digits s.stored_digits)
  have slot := not_keyword_infix noBlank
  have object := not_keyword_infix noBlank'
  have proper : keyword ≠ [] := by decide
  have across {t u : Text} {c : Char} (free : c ∉ keyword) :
      keyword <:+: t ++ c :: u ↔ keyword <:+: t ∨ keyword <:+: u :=
    Text.infix_append_cons_iff free
  have behind {t : Text} {c : Char} (free : c ∉ keyword) :
      keyword <:+: c :: t ↔ keyword <:+: t :=
    Text.infix_cons_iff_of_not_mem free proper
  have gap {t : Text} : keyword <:+: s.gap ++ (container ++ '[' :: t) ↔
      keyword <:+: s.gap ∨ keyword <:+: t := by
    have ends : keyword = "function".toList ++ [' '] := rfl
    rw [← List.append_assoc, across (by decide), ends]
    exact or_congr_left (Text.infix_append_iff_of_not_mem noBlank)
  simp only [parts, List.flatten_cons, List.flatten_nil, List.append_assoc, List.cons_append,
    List.nil_append, String.reduceToList, List.append_nil]
  simp (disch := decide) only [behind, gap, across]
  simp [gaps, trimmed, slot, stored, object, proper]

/-- When the routine that is registered encloses the fragment. -/
theorem Snapshot.encloses_text_iff (s : Snapshot) (noBlank : ' ' ∉ container) (noBlank' : ' ' ∉ object)
    (plain : isPlainName (s.head.headBefore '(') = true) :
    Encloses (s.head.headBefore '(') (s.text container object) ↔
      '(' ∉ s.head ∧ ∀ gap ∈ s.gaps, ¬ keyword <:+: gap := by
  have behind : (s.parts container object).flatten =
      "()".toList ++ (s.parts container object).flatten.tail.tail := rfl
  have proper : keyword ≠ [] := by decide
  have inside : keyword <:+: (s.parts container object).flatten.tail.tail ↔
      ∃ gap ∈ s.gaps, keyword <:+: gap := by
    rw [← s.keyword_infix_iff noBlank noBlank', behind]
    simp only [String.reduceToList, List.cons_append, List.nil_append]
    rw [Text.infix_cons_iff_of_not_mem (by decide) proper,
      Text.infix_cons_iff_of_not_mem (by decide) proper]
    rfl
  rw [text, behind, encloses_iff s.head_length plain, inside]
  simp only [not_exists, not_and]

/-! ## The routine that is registered -/

variable {text : Text} {b b' : Bindings} {o : RuleOutcome}

/-- If the rule succeeds, the routine that it registers is named by what stands in the place of the
name, up to a parenthesis. Neither the map nor what it is part of may be bound to a text with a blank
in it, as they never are behind the map object. Then the routine encloses the fragment just if there
is no parenthesis and no other definition begins in the places that the signature leaves open. -/
theorem registers_enclosing_iff (done : (apply text).on b = (.ok o, b'))
    (boundContainer : b.get? Identifier.mapContainer = some container)
    (boundObject : b.get? Identifier.mapObject = some object)
    (noBlank : ' ' ∉ container) (noBlank' : ' ' ∉ object) :
    ∃ m routine, ∃ s : Snapshot, locate b text = .ok m ∧
      b'.get? Identifier.undoRoutine = some routine ∧
      m.whole.text = s.text container object ∧ routine = s.head.headBefore '(' ∧
      (Encloses routine m.whole.text ↔ '(' ∉ s.head ∧ ∀ gap ∈ s.gaps, ¬ keyword <:+: gap) := by
  obtain ⟨pattern, standsFor⟩ := routine_standsFor boundContainer boundObject
  simp only [apply, on_get_andThen, on_lift_andThen_eq_ok, on_bind_name_andThen, on_pure,
    Prod.mk.injEq] at done
  obtain ⟨locator, compiled, found, search, routine, named, code, -, -, rfl⟩ := done
  obtain rfl := standsFor.eq_of_compile compiled
  obtain ⟨isMatch, -⟩ := Locator.first_sound search
  obtain ⟨s, fragment⟩ := exists_snapshot isMatch.spells
  have split : s.text container object =
      keyword ++ (s.head ++ '(' :: (s.parts container object).flatten.tail) := rfl
  rw [fragment, split] at named
  obtain ⟨rfl, plain⟩ := routineName_eq_ok named
  refine ⟨found, _, s, ?_, Bindings.get?_bind_self, fragment, rfl, ?_⟩
  · rw [locate, compiled]
    exact search
  · rw [fragment]
    exact s.encloses_text_iff noBlank noBlank' plain

/-! ## A sample -/

/-- Bindings as the rules before this one leave them. -/
def sampleBindings : Bindings :=
  ((Bindings.seeded ['w']).bind Identifier.mapObject "abc[12]".toList).bind Identifier.mapContainer
    "abc".toList

/-- A routine that saves a snapshot. -/
def sampleRoutine : Text :=
  [ "function k3Z()\x7bif(abc[5]>=20)\x7babc[7].shift();abc[5]--;\x7d",
    "abc[7][abc[5]]=Z[3](JSON[T[4]](abc[12]));abc[5]++;\x7d"].flatMap String.toList

/-- Another routine that stands directly before it. -/
def sampleNeighbour : Text := "function a0Z()\x7bx();\x7d".toList

/-- The routine that is bound, and the fragment. -/
def boundIn? : Except PatchError Match → Except PatchError RuleOutcome × Bindings →
    Option (Text × Text)
  | .ok m, (.ok _, b') => (b'.get? Identifier.undoRoutine).map (·, m.whole.text)
  | _, _ => none

/-- The routine that the rule registers, and the fragment. -/
def outcome? (b : Bindings) (text : Text) : Option (Text × Text) :=
  boundIn? (locate b text) ((apply text).on b)

theorem outcome?_eq_some {routine fragment : Text} (h : outcome? b text = some (routine, fragment)) :
    ∃ o b' m, (apply text).on b = (.ok o, b') ∧ locate b text = .ok m ∧
      b'.get? Identifier.undoRoutine = some routine ∧ m.whole.text = fragment := by
  rw [outcome?] at h
  generalize (apply text).on b = done at h ⊢
  generalize locate b text = located at h ⊢
  simp only [boundIn?] at h
  split at h
  · rename_i m o b'
    simp only [Option.map_eq_some_iff, Prod.mk.injEq] at h
    obtain ⟨_, bound, rfl, rfl⟩ := h
    exact ⟨o, b', m, rfl, rfl, bound, rfl⟩
  · contradiction

/-- The sample is found with or without a neighbour, which is taken for its beginning. -/
theorem outcome?_sample {before : Text} (known : before = [] ∨ before = sampleNeighbour) :
    outcome? sampleBindings (before ++ sampleRoutine) =
      some (if before = [] then "k3Z".toList else "a0Z".toList,
        (before ++ sampleRoutine).take (before.length + 94)) := by
  simp only [outcome?, locate, apply, Signature.compile, Regex.ofText_eq_evaluate, Locator.first,
    Regex.first?_eq_evaluate]
  rcases known with rfl | rfl
  · decide +kernel
  · decide +kernel

/-- The rule registers the routine of the sample, which encloses the fragment. -/
theorem registers_enclosing_sample : ∃ o b' m routine, ∃ s : Snapshot,
    (apply sampleRoutine).on sampleBindings = (.ok o, b') ∧
      locate sampleBindings sampleRoutine = .ok m ∧
      b'.get? Identifier.undoRoutine = some routine ∧
      m.whole.text = s.text "abc".toList "abc[12]".toList ∧ routine = s.head.headBefore '(' ∧
      (Encloses routine m.whole.text ↔ '(' ∉ s.head ∧ ∀ gap ∈ s.gaps, ¬ keyword <:+: gap) := by
  obtain ⟨o, b', -, done, -⟩ := outcome?_eq_some (outcome?_sample (.inl rfl))
  have boundContainer : sampleBindings.get? Identifier.mapContainer = some "abc".toList := by decide
  have boundObject : sampleBindings.get? Identifier.mapObject = some "abc[12]".toList := by decide
  obtain ⟨m, routine, s, found⟩ :=
    registers_enclosing_iff done boundContainer boundObject (by decide) (by decide)
  exact ⟨o, b', m, routine, s, done, found⟩

/-- A routine is registered that does not enclose the fragment, but ends before the one that saves
the snapshot. -/
theorem registers_neighbour : ∃ o b' m,
    (apply (sampleNeighbour ++ sampleRoutine)).on sampleBindings = (.ok o, b') ∧
      locate sampleBindings (sampleNeighbour ++ sampleRoutine) = .ok m ∧
      b'.get? Identifier.undoRoutine = some "a0Z".toList ∧
      ¬ Encloses "a0Z".toList m.whole.text := by
  obtain ⟨o, b', m, done, located, bound, fragment⟩ :=
    outcome?_eq_some (outcome?_sample (.inr rfl))
  refine ⟨o, b', m, done, located, bound, ?_⟩
  intro encloses
  have another : Text.hasInfix keyword (m.whole.text.drop (keyword.length + 5)) = true := by
    rw [fragment]
    decide
  exact encloses.not_infix_drop (Text.hasInfix_iff.1 another)

end HookGraft.UndoHistory

import HookGraft.Proofs.Rule.ResetRoutine

/-!
# The names in the code behind the reset routine

The code behind the reset routine declares a name for each routine that it wraps, which is the name
of the routine with a fixed ending, and the parameter of the routines that write a slot. No two of
the declared names are the same. Apart from that the rule does not look at them: one may be the name
of another routine, or a name that occurs in a slot.

## Main definitions

* `ResetState.saved`: the name that a routine is kept under
* `ResetState.Mentions`: a name occurs in a text
* `ResetState.Hygienic`: what is declared captures no name of the program

## Main results

* `ResetState.hygienic_iff`: when the code is hygienic, for slots that are elements of a list
* `ResetState.captures`: it is not always
-/

namespace HookGraft.ResetState

open Discovery Regex

variable {selection update : List String} {resetRule : Rule} {root text slot routine : Text}
  {capability : String} {b b' : Bindings} {o : RuleOutcome} {shape : ResetShape}

/-! ## Names -/

/-- The name that a routine is kept under. -/
def saved (routine : Text) : Text := routine ++ "OLD".toList

/-- Whether a character may be part of a name. -/
def isNameChar (c : Char) : Bool := Unicode.isAlphanumeric c || c == '_' || c == '$'

/-- A name occurs in a text, with no further characters of a name around it. -/
def Mentions (name text : Text) : Prop := name ∈ text.splitOnP fun c => !isNameChar c

instance (name text : Text) : Decidable (Mentions name text) :=
  inferInstanceAs (Decidable (name ∈ text.splitOnP fun c => !isNameChar c))

/-- No name that the code declares is declared twice, is the name of a routine that is wrapped or
occurs in a slot. -/
structure Hygienic (shape : ResetShape) : Prop where
  distinct : (shape.updates.map saved).Nodup
  fresh : ∀ routine ∈ shape.updates, saved routine ∉ shape.updates
  parameter : ∀ slot ∈ shape.slots, ¬ Mentions ['v'] slot
  unused : ∀ slot ∈ shape.slots, ∀ routine ∈ shape.updates, ¬ Mentions (saved routine) slot

/-- The wrapper for a routine declares the name that the routine is kept under. -/
theorem wrapper_declares (root routine : Text) (capability : String) :
    ∃ rest, wrapper root routine capability =
      "let ".toList ++ saved routine ++ '=' :: (routine ++ ';' :: rest) :=
  ⟨_, by simp only [wrapper, saved, List.flatten_cons, List.append_assoc]; rfl⟩

/-- The routine that writes a slot declares its parameter. -/
theorem accessors_declare (root slot : Text) (capability : String) :
    ∃ rest, accessors root slot capability =
      rest ++ "=function(v)\x7breturn ".toList ++ slot ++ "=v;\x7d;".toList := by
  refine ⟨root ++ ".getCurrent".toList ++ capability.toList ++ "=function()\x7breturn ".toList ++
    slot ++ ";\x7d;".toList ++ root ++ ".setCurrent".toList ++ capability.toList, ?_⟩
  simp only [accessors, List.flatten_cons, List.flatten_nil, List.append_assoc, List.append_nil]

theorem saved_injective {routine other : Text} (same : saved routine = saved other) :
    routine = other :=
  List.append_cancel_right same

/-- Routines with other names are kept under other names. -/
theorem nodup_saved {routines : List Text} (distinct : routines.Nodup) :
    (routines.map saved).Nodup :=
  List.pairwise_map.2 (distinct.imp fun apart same => apart (saved_injective same))

theorem isNameChar_of_isPlain {name : Text} (plain : IsPlain name) :
    ∀ c ∈ name, isNameChar c = true := by
  intro c member
  simpa [isNameChar, or_assoc] using plain.plain c member

/-! ## Slots -/

/-- An element of a list, such as `abc[12]`. -/
def element (container index : Text) : Text := container ++ '[' :: (index ++ [']'])

theorem splitOnP_of_isPlain {name : Text} (plain : IsPlain name) :
    name.splitOnP (fun c => !isNameChar c) = [name] :=
  List.splitOnP_eq_singleton fun c member => by simp [isNameChar_of_isPlain plain c member]

/-- Two names occur in an element of a list, that of the list and the index. -/
theorem mentions_element_iff {name container index : Text} (proper : name ≠ [])
    (plainContainer : IsPlain container) (plainIndex : IsPlain index) :
    Mentions name (element container index) ↔ name = container ∨ name = index := by
  rw [Mentions, element, List.splitOnP_append_cons _ _ (by decide),
    List.splitOnP_append_cons _ _ (by decide), splitOnP_of_isPlain plainContainer,
    splitOnP_of_isPlain plainIndex, List.splitOnP_nil]
  simp [proper]

/-- A name is other than those that the code declares. -/
structure Apart (shape : ResetShape) (name : Text) : Prop where
  parameter : name ≠ ['v']
  unused : ∀ routine ∈ shape.updates, name ≠ saved routine

/-- What the code declares does not occur in an element of a list if it is neither the name of the
list nor the index. -/
theorem apart_iff {container index : Text} (plainContainer : IsPlain container)
    (plainIndex : IsPlain index) : Apart shape container ∧ Apart shape index ↔
      ¬ Mentions ['v'] (element container index) ∧
        ∀ routine ∈ shape.updates, ¬ Mentions (saved routine) (element container index) := by
  have parameter := mentions_element_iff (List.cons_ne_nil 'v' []) plainContainer plainIndex
  have unused (routine : Text) : Mentions (saved routine) (element container index) ↔
      saved routine = container ∨ saved routine = index :=
    mentions_element_iff (List.append_ne_nil_of_right_ne_nil _ (by decide)) plainContainer plainIndex
  rw [parameter, not_or]
  constructor
  · rintro ⟨first, second⟩
    refine ⟨⟨first.parameter.symm, second.parameter.symm⟩, fun routine wrapped => ?_⟩
    rw [unused, not_or]
    exact ⟨(first.unused routine wrapped).symm, (second.unused routine wrapped).symm⟩
  · rintro ⟨⟨first, second⟩, others⟩
    simp only [unused, not_or] at others
    exact ⟨⟨Ne.symm first, fun routine wrapped => Ne.symm (others routine wrapped).1⟩,
      ⟨Ne.symm second, fun routine wrapped => Ne.symm (others routine wrapped).2⟩⟩

/-- When the code is hygienic, for slots that are elements of a list. -/
theorem hygienic_of_elements_iff {elements : List (Text × Text)} (distinct : shape.updates.Nodup)
    (plain : ∀ e ∈ elements, IsPlain e.1 ∧ IsPlain e.2)
    (slots : shape.slots = elements.map fun e => element e.1 e.2) :
    Hygienic shape ↔ (∀ routine ∈ shape.updates, saved routine ∉ shape.updates) ∧
      ∀ e ∈ elements, Apart shape e.1 ∧ Apart shape e.2 := by
  have apart : (∀ e ∈ elements, Apart shape e.1 ∧ Apart shape e.2) ↔ ∀ slot ∈ shape.slots,
      ¬ Mentions ['v'] slot ∧ ∀ routine ∈ shape.updates, ¬ Mentions (saved routine) slot := by
    rw [slots, List.forall_mem_map]
    exact forall₂_congr fun e member => apart_iff (plain e member).1 (plain e member).2
  rw [apart]
  constructor
  · exact fun hygienic => ⟨hygienic.fresh, fun slot member =>
      ⟨hygienic.parameter slot member, hygienic.unused slot member⟩⟩
  · rintro ⟨fresh, others⟩
    exact ⟨nodup_saved distinct, fresh, fun slot member => (others slot member).1,
      fun slot member => (others slot member).2⟩

/-- The code is hygienic if the lengths of the names tell them apart: the names of the routines are
of one length, and those of the lists of others than the names that are declared. -/
theorem hygienic_of_lengths {elements : List (Text × Text)} {n : Nat}
    (distinct : shape.updates.Nodup) (plain : ∀ e ∈ elements, IsPlain e.1 ∧ IsPlain e.2)
    (slots : shape.slots = elements.map fun e => element e.1 e.2)
    (routines : ∀ routine ∈ shape.updates, routine.length = n)
    (lengths : ∀ e ∈ elements, e.1.length ≠ 1 ∧ e.1.length ≠ n + 3)
    (numbers : ∀ e ∈ elements, ∀ d ∈ e.2, d.isDigit = true) : Hygienic shape := by
  have length_saved : ∀ routine ∈ shape.updates, (saved routine).length = n + 3 := by
    intro routine wrapped
    rw [saved, List.length_append, routines routine wrapped]
    rfl
  refine (hygienic_of_elements_iff distinct plain slots).2 ⟨fun routine wrapped again => ?_,
    fun e member => ⟨⟨?_, fun routine wrapped => ?_⟩, ⟨?_, fun routine wrapped => ?_⟩⟩⟩
  · have := routines _ again
    rw [length_saved routine wrapped] at this
    omega
  · rintro same
    exact (lengths e member).1 (congrArg List.length same)
  · rintro same
    exact (lengths e member).2 ((congrArg List.length same).trans (length_saved routine wrapped))
  · rintro same
    have := numbers e member 'v' (same ▸ List.mem_singleton_self 'v')
    contradiction
  · rintro same
    have := numbers e member 'O' (same ▸ List.mem_append_right routine (List.mem_cons_self))
    contradiction

/-! ## The rule -/

/-- If the rule succeeds, no name is declared twice in the code. The code is hygienic just if no
routine has the name that another one is kept under, and neither this name nor that of the parameter
occurs in a slot. The rule checks neither, but the code is hygienic if the lengths of the names tell
them apart. -/
theorem hygienic_iff (made : rule? selection update = .ok resetRule)
    (done : (resetRule.apply text).on b = (.ok o, b')) :
    ∃ m routine shape root, Outcome selection update text b b' o m routine shape root ∧
      (∀ routine capability, ∃ rest, wrapper root routine capability =
        "let ".toList ++ saved routine ++ '=' :: (routine ++ ';' :: rest)) ∧
      (∀ slot capability, ∃ rest, accessors root slot capability =
        rest ++ "=function(v)\x7breturn ".toList ++ slot ++ "=v;\x7d;".toList) ∧
      (shape.updates.map saved).Nodup ∧
      ∀ elements : List (Text × Text), (∀ e ∈ elements, IsPlain e.1 ∧ IsPlain e.2) →
        shape.slots = elements.map (fun e => element e.1 e.2) →
        (Hygienic shape ↔ (∀ routine ∈ shape.updates, saved routine ∉ shape.updates) ∧
          ∀ e ∈ elements, Apart shape e.1 ∧ Apart shape e.2) ∧
        ∀ n, (∀ routine ∈ shape.updates, routine.length = n) →
          (∀ e ∈ elements, e.1.length ≠ 1 ∧ e.1.length ≠ n + 3) →
          (∀ e ∈ elements, ∀ d ∈ e.2, d.isDigit = true) → Hygienic shape := by
  obtain ⟨m, routine, shape, root, outcome⟩ := exists_of_apply made done
  obtain ⟨body, isBody, calls, canonical⟩ := ResetShape.ofFragment_eq_ok_iff.1 outcome.apart
  have distinct := canonical.updates_nodup
  refine ⟨m, routine, shape, root, outcome, wrapper_declares root, accessors_declare root,
    nodup_saved distinct, fun elements plain slots => ?_⟩
  exact ⟨hygienic_of_elements_iff distinct plain slots,
    fun n routines lengths numbers =>
      hygienic_of_lengths distinct plain slots routines lengths numbers⟩

/-! ## Samples -/

/-- What the sample comes apart into. -/
def sampleShape : ResetShape where
  slots := ["z5i[977]", "z5i[450]", "z5i[462]"].map String.toList
  updates := ["p4Z", "v4Z", "B4Z", "M4Z", "y0Z", "I6s"].map String.toList

/-- In the sample the lengths of the names tell them apart. -/
theorem hygienic_iff_sample : ∃ o b',
    rule? sampleSelection sampleUpdate = .ok (ruleFor sampleSelection sampleUpdate) ∧
      ((ruleFor sampleSelection sampleUpdate).apply sampleRoutine).on (.seeded ['w']) =
        (.ok o, b') ∧
      ∃ m routine shape root,
        Outcome sampleSelection sampleUpdate sampleRoutine (.seeded ['w']) b' o m routine shape root ∧
          (shape.updates.map saved).Nodup ∧ Hygienic shape := by
  obtain ⟨o, b', m, done, located, -, -, fragment⟩ :=
    outcome?_eq_some (outcome?_sample (.inl rfl))
  have made := rule?_of_length (show sampleSelection.length = ResetShape.slotCount from rfl)
    (show sampleUpdate.length = ResetShape.updateCount from rfl)
  obtain ⟨m', routine, shape, root, outcome, -, -, distinct, each⟩ := hygienic_iff made done
  obtain rfl : m = m' := Except.ok.inj (located.symm.trans outcome.located)
  obtain rfl : sampleShape = shape := by
    have apart := outcome.apart
    rw [fragment] at apart
    have here : ResetShape.ofFragment name sampleRoutine = .ok sampleShape := by decide
    exact Except.ok.inj (here.symm.trans apart)
  refine ⟨o, b', made, done, m, routine, sampleShape, root, outcome, distinct, ?_⟩
  exact (each [("z5i".toList, "977".toList), ("z5i".toList, "450".toList),
    ("z5i".toList, "462".toList)] (by decide) (by decide)).2 3 (by decide)
    (by decide) (by simp)

/-- A reset routine that calls a routine with the name that another one is kept under, and clears
slots of lists whose names are declared. -/
def capturedRoutine : Text :=
  [ "function j0Z()\x7bv[1]=-1;y0ZOLD[2]=-1;z5i[3]=-1;",
    "p4Z();p4ZOLD();B4Z(true);M4Z();y0Z();I6s();\x7d"].flatMap String.toList

/-- What it comes apart into. -/
def capturedShape : ResetShape where
  slots := ["v[1]", "y0ZOLD[2]", "z5i[3]"].map String.toList
  updates := ["p4Z", "p4ZOLD", "B4Z", "M4Z", "y0Z", "I6s"].map String.toList

/-- The rule succeeds. -/
theorem outcome?_captured (known : text = capturedRoutine) :
    outcome? text = some ("j0Z".toList, "v[1]".toList, text) := by
  simp only [outcome?, locate, apply, compile_routine, Locator.first, Regex.first?_eq_evaluate]
  subst known
  decide +kernel

/-- The code declares the name of a routine that it wraps, and both the name that a routine is kept
under and the parameter occur in a slot. -/
theorem captures : ∃ o b' m,
    (apply sampleSelection sampleUpdate capturedRoutine).on (.seeded ['w']) = (.ok o, b') ∧
      locate (.seeded ['w']) capturedRoutine = .ok m ∧
      ResetShape.ofFragment name m.whole.text = .ok capturedShape ∧
      (∃ routine ∈ capturedShape.updates, saved routine ∈ capturedShape.updates) ∧
      (∃ slot ∈ capturedShape.slots, Mentions ['v'] slot) ∧
      ∃ slot ∈ capturedShape.slots, ∃ routine ∈ capturedShape.updates,
        Mentions (saved routine) slot := by
  obtain ⟨o, b', m, done, located, -, -, fragment⟩ := outcome?_eq_some (outcome?_captured rfl)
  refine ⟨o, b', m, done, located, ?_, by decide, by decide, by decide⟩
  rw [fragment]
  decide

end HookGraft.ResetState

import HookGraft.Proofs.Fragment.ResetShape

/-!
# The statements that are passed over

When a reset routine is taken apart, calls through a chain of property accesses are passed over.
They are known by a dot and a pair of parentheses behind it. These may as well stand in the
arguments of a routine that is called by its name, or in the value that is assigned to a slot. Such
statements are passed over too, and the number of the others does not always tell.

## Main definitions

* `HoldsChain`: texts with a dot and a pair of parentheses behind it
* `ResetShape.passedOver`: the statements of a body that are passed over

## Main results

* `ResetShape.isChained_assigning_iff`, `ResetShape.isChained_calling_iff`,
  `ResetShape.isChained_callingMethod_iff`: which assignments, calls by name and calls of a method
  are taken for calls through a chain
* `ResetShape.passes_named_iff`: when a call by name or an assignment is passed over
* `ResetShape.passes_named`: a routine and a slot are lost
-/

namespace HookGraft

variable {before text value slot object method arguments : Text} {c : Char}

/-! ## Chains in a text -/

/-- A dot, some text and a pair of parentheses, with anything before and behind. -/
def HoldsChain (text : Text) : Prop :=
  ∃ before between after, between ≠ [] ∧
    text = before ++ '.' :: (between ++ '(' :: ')' :: after)

/-- In a call through a chain the dot does not come first. -/
theorem isChained_iff : IsChained text ↔ HoldsChain text.tail := by
  rw [← isChainCall_iff, isChainCall]
  exact hasDottedCall_iff

/-- The dot comes first, or it stands in the rest. -/
theorem holdsChain_cons_iff : HoldsChain (c :: text) ↔
    (c = '.' ∧ ['(', ')'] <:+: text.tail) ∨ HoldsChain text := by
  unfold HoldsChain
  rw [← hasDottedCall_iff, ← hasDottedCall_iff, hasDottedCall, hasLateCall, Bool.or_eq_true,
    Bool.and_eq_true, beq_iff_eq, Text.hasInfix_iff]

theorem not_holdsChain_nil : ¬ HoldsChain [] := by
  rintro ⟨before, between, after, -, whole⟩
  simp at whole

theorem HoldsChain.infix (h : HoldsChain text) : ['(', ')'] <:+: text := by
  obtain ⟨before, between, after, -, rfl⟩ := h
  exact ⟨before ++ '.' :: between, after, by simp⟩

/-- What stands before the first dot of a text does not matter. -/
theorem holdsChain_append_iff (noDot : '.' ∉ before) :
    HoldsChain (before ++ text) ↔ HoldsChain text := by
  induction before with
  | nil => rfl
  | cons c before ih =>
    obtain ⟨other, noDot⟩ := not_or.1 (mt List.mem_cons.2 noDot)
    rw [List.cons_append, holdsChain_cons_iff, ih noDot]
    exact or_iff_right fun first => other first.1.symm

/-- The parentheses stand on the side of the dot, or the equals sign comes between them and the
dot. -/
theorem holdsChain_equals_iff : HoldsChain (text ++ '=' :: value) ↔
    HoldsChain text ∨ ('.' ∈ text ∧ ['(', ')'] <:+: value) ∨ HoldsChain value := by
  -- the induction takes away the text on the left, where each dot may be followed on either side
  induction text with
  | nil =>
    have equals : HoldsChain (['='] ++ value) ↔ HoldsChain value :=
      holdsChain_append_iff (by decide)
    simpa [not_holdsChain_nil] using equals
  | cons c text ih =>
    have behind : ['(', ')'] <:+: (text ++ '=' :: value).tail ↔
        ['(', ')'] <:+: text.tail ∨ ['(', ')'] <:+: value := by
      cases text with
      | nil => simp
      | cons d text => exact Text.infix_append_cons_iff (by decide)
    rw [List.cons_append, holdsChain_cons_iff, holdsChain_cons_iff, ih, behind, List.mem_cons,
      eq_comm (a := '.')]
    grind

namespace ResetShape

/-! ## Statements of three kinds -/

/-- The statement that assigns a value to a slot. -/
def assigning (slot value : Text) : Text := slot ++ '=' :: value

/-- The statement that calls a method of an object. -/
def callingMethod (object method arguments : Text) : Text :=
  calling (object ++ '.' :: method, arguments)

/-- A plain name holds no dot. -/
theorem dot_not_mem_of_isPlain {name : Text} (h : IsPlain name) : '.' ∉ name := fun member => by
  have := h.plain '.' member
  revert this
  decide

/-- A call by name is taken for a call through a chain if its arguments hold one. The parenthesis
behind them counts as well. -/
theorem isChained_calling_iff {call : Text × Text} (plain : IsPlain call.1) :
    IsChained (calling call) ↔ HoldsChain (call.2 ++ [')']) := by
  obtain ⟨c, name, named⟩ := List.exists_cons_of_ne_nil plain.proper
  have noDot : '.' ∉ name ++ ['('] := by
    have absent := dot_not_mem_of_isPlain plain
    rw [named, List.mem_cons, not_or] at absent
    simp [absent.2]
  have split : (calling call).tail = name ++ ['('] ++ (call.2 ++ [')']) := by
    simp [calling, named]
  rw [isChained_iff, split, holdsChain_append_iff noDot]

/-- An assignment is taken for a call through a chain if one side of it holds a chain, or if there
is a dot on the left and a pair of parentheses on the right. -/
theorem isChained_assigning_iff (proper : slot ≠ []) : IsChained (assigning slot value) ↔
    IsChained slot ∨ ('.' ∈ slot.tail ∧ ['(', ')'] <:+: value) ∨ HoldsChain value := by
  obtain ⟨c, slot, rfl⟩ := List.exists_cons_of_ne_nil proper
  rw [isChained_iff, isChained_iff]
  exact holdsChain_equals_iff

/-- A call of a method is taken for a call through a chain if there is a pair of parentheses in it,
be it the one behind the method. -/
theorem isChained_callingMethod_iff (properObject : object ≠ []) (properMethod : method ≠ [])
    (plainObject : '(' ∉ object) (plainMethod : '(' ∉ method) :
    IsChained (callingMethod object method arguments) ↔
      ['(', ')'] <:+: '(' :: (arguments ++ [')']) := by
  obtain ⟨c, object, rfl⟩ := List.exists_cons_of_ne_nil properObject
  rw [isChained_iff]
  constructor
  · intro chain
    have noParenthesis : '(' ∉ object ++ '.' :: method := by
      simp only [List.mem_cons, not_or] at plainObject
      simp [plainObject, plainMethod]
    exact (Text.infix_append_iff_of_head_not_mem noParenthesis).1 chain.infix
  · rintro ⟨skipped, after, split⟩
    refine ⟨object, method ++ skipped, after, ?_, ?_⟩
    · simp [properMethod]
    · have := congrArg (object ++ '.' :: method ++ ·) split
      simpa [callingMethod, calling] using this.symm

/-! ## What is passed over -/

variable {rule : String} {fragment body statement : Text} {shape : ResetShape}

/-- The statements of a body that are passed over. -/
def passedOver (body : Text) : List Text := (splitStatements body).filter fun s => IsChained s

theorem mem_passedOver_iff :
    statement ∈ passedOver body ↔ statement ∈ splitStatements body ∧ IsChained statement := by
  rw [passedOver, List.mem_filter, decide_eq_true_iff]

theorem mem_ownStatements_iff :
    statement ∈ ownStatements body ↔ statement ∈ splitStatements body ∧ ¬ IsChained statement := by
  rw [ownStatements, List.mem_filter, decide_eq_true_iff]

/-- A statement is either passed over or kept. -/
theorem mem_passedOver_iff_not_mem (member : statement ∈ splitStatements body) :
    statement ∈ passedOver body ↔ statement ∉ ownStatements body := by
  rw [mem_passedOver_iff, mem_ownStatements_iff]
  simp only [member, true_and, Decidable.not_not]

theorem length_passedOver (body : Text) :
    (splitStatements body).length = (ownStatements body).length + (passedOver body).length := by
  rw [ownStatements, passedOver, ← List.countP_eq_length_filter, ← List.countP_eq_length_filter,
    Nat.add_comm]
  simpa using List.length_eq_countP_add_countP (fun s => IsChained s) (l := splitStatements body)

/-- Which statements of a body are passed over. -/
structure Division (body : Text) : Prop where
  /-- A statement is either passed over or kept. -/
  kept : ∀ s ∈ splitStatements body, s ∈ passedOver body ↔ s ∉ ownStatements body
  /-- A call of a method is passed over if there is a pair of parentheses in it, be it the one
  behind the method. -/
  method : ∀ object method arguments, object ≠ [] → method ≠ [] → '(' ∉ object → '(' ∉ method →
    callingMethod object method arguments ∈ splitStatements body →
    (callingMethod object method arguments ∈ passedOver body ↔
      ['(', ')'] <:+: '(' :: (arguments ++ [')']))
  /-- A call by name is passed over if its arguments hold a chain. -/
  named : ∀ call, IsPlain call.1 → calling call ∈ splitStatements body →
    (calling call ∈ passedOver body ↔ HoldsChain (call.2 ++ [')']))
  /-- An assignment is passed over if a chain stands in the slot or ends in the value. -/
  assigned : ∀ slot value, IsSlotName slot → assigning slot value ∈ splitStatements body →
    (assigning slot value ∈ passedOver body ↔
      IsChained slot ∨ ('.' ∈ slot.tail ∧ ['(', ')'] <:+: value) ∨ HoldsChain value)

theorem division (body : Text) : Division body where
  kept _ := mem_passedOver_iff_not_mem
  method object method arguments properObject properMethod plainObject plainMethod member := by
    rw [mem_passedOver_iff, and_iff_right member,
      isChained_callingMethod_iff properObject properMethod plainObject plainMethod]
  named call plain member := by
    rw [mem_passedOver_iff, and_iff_right member, isChained_calling_iff plain]
  assigned slot value isName member := by
    rw [mem_passedOver_iff, and_iff_right member, isChained_assigning_iff isName.proper]

/-- Calls of a routine by its name. -/
def CallsByName (statement : Text) : Prop := ∃ call, IsPlain call.1 ∧ statement = calling call

/-- Assignments to a slot. -/
def Assigns (statement : Text) : Prop :=
  ∃ slot value, IsSlotName slot ∧ statement = assigning slot value

/-- If a reset routine comes apart, its body has nine statements that clear the slots and call the
routines, and those that are passed over. No call by name and no assignment is among these just if
none has a chain in its arguments, in its slot or ending in its value, whatever the number of
statements is. -/
theorem passes_named_iff (apart : ofFragment rule fragment = .ok shape) :
    ∃ body calls, IsBody fragment body ∧ IsCanonical (ownStatements body) shape calls ∧
      (splitStatements body).length = 9 + (passedOver body).length ∧ Division body ∧
      ((∀ s ∈ passedOver body, ¬ CallsByName s ∧ ¬ Assigns s) ↔
        (∀ call, IsPlain call.1 → calling call ∈ splitStatements body →
          ¬ HoldsChain (call.2 ++ [')'])) ∧
        ∀ slot value, IsSlotName slot → assigning slot value ∈ splitStatements body →
          ¬ IsChained slot ∧ ('.' ∈ slot.tail → ¬ ['(', ')'] <:+: value) ∧ ¬ HoldsChain value) := by
  obtain ⟨body, isBody, calls, canonical⟩ := ofFragment_eq_ok_iff.1 apart
  have nine : (ownStatements body).length = 9 := by
    rw [canonical.statements_eq, List.length_append, List.length_map, List.length_map,
      canonical.three, canonical.six]
  obtain ⟨-, -, named, assigned⟩ := division body
  refine ⟨body, calls, isBody, canonical, nine ▸ length_passedOver body, division body, ?_⟩
  constructor
  · refine fun none => ⟨fun call plain member chain => ?_, fun slot value isName member => ?_⟩
    · exact (none _ ((named call plain member).2 chain)).1 ⟨call, plain, rfl⟩
    · have kept : assigning slot value ∉ passedOver body :=
        fun passed => (none _ passed).2 ⟨slot, value, isName, rfl⟩
      rw [assigned slot value isName member, not_or, not_or, not_and] at kept
      exact kept
  · rintro ⟨noCall, noAssignment⟩ s passed
    have member := (mem_passedOver_iff.1 passed).1
    constructor
    · rintro ⟨call, plain, rfl⟩
      exact noCall call plain member ((named call plain member).1 passed)
    · rintro ⟨slot, value, isName, rfl⟩
      obtain ⟨noSlot, noDot, noValue⟩ := noAssignment slot value isName member
      rcases (assigned slot value isName member).1 passed with chain | ⟨dot, chain⟩ | chain
      · exact noSlot chain
      · exact noDot dot chain
      · exact noValue chain

/-! ## Samples -/

/-- A fragment that is written out from the statements of its body. -/
def written (statements : List Text) : Text :=
  "function j0Z()".toList ++ '\x7b' :: ([';'].intercalate statements ++ [';', '\x7d'])

theorem isBody_written (statements : List Text) :
    IsBody (written statements) ([';'].intercalate statements) :=
  ⟨_, [], by decide, by simp, rfl⟩

/-- A fragment comes apart if the statements that it is written out from do. -/
theorem ofFragment_written {statements : List Text} {calls : List (Text × Text)}
    (some : statements ≠ []) (single : ∀ s ∈ statements, ';' ∉ s)
    (canonical : IsCanonical (statements.filter fun s => ¬ IsChained s) shape calls) :
    ofFragment rule (written statements) = .ok shape :=
  ofFragment_eq_ok_iff.2 ⟨_, isBody_written statements, calls,
    (ownStatements_intercalate some single).symm ▸ canonical⟩

/-- The sample comes apart. -/
theorem passes_named_sample :
    ofFragment "reset-state" (written sampleStatements) = .ok sampleShape ∧
    ∃ body calls, IsBody (written sampleStatements) body ∧
      IsCanonical (ownStatements body) sampleShape calls ∧
      (splitStatements body).length = 9 + (passedOver body).length ∧ Division body ∧
      ((∀ s ∈ passedOver body, ¬ CallsByName s ∧ ¬ Assigns s) ↔
        (∀ call, IsPlain call.1 → calling call ∈ splitStatements body →
          ¬ HoldsChain (call.2 ++ [')'])) ∧
        ∀ slot value, IsSlotName slot → assigning slot value ∈ splitStatements body →
          ¬ IsChained slot ∧ ('.' ∈ slot.tail → ¬ ['(', ')'] <:+: value) ∧
            ¬ HoldsChain value) := by
  have apart : ofFragment "reset-state" (written sampleStatements) = .ok sampleShape :=
    ofFragment_written (List.cons_ne_nil _ _) (by decide) isCanonical_sample
  exact ⟨apart, passes_named_iff apart⟩

/-- The statements of the sample, with two more. One assigns to a fourth slot what a call through a
chain yields, and one calls a seventh routine with it. -/
def largerStatements : List Text :=
  sampleStatements ++ [assigning "z5i[450]".toList "n4V.a1V()".toList,
    calling ("Q1Z".toList, "n4V.a1V()".toList)]

/-- A routine with four slots and seven routines comes apart. One of each gets lost. -/
theorem passes_named : ∃ shape body slot value call,
    ofFragment "reset-state" (written largerStatements) = .ok shape ∧
      IsBody (written largerStatements) body ∧
      IsSlotName slot ∧ assigning slot value ∈ passedOver body ∧ slot ∉ shape.slots ∧
      IsPlain call.1 ∧ calling call ∈ passedOver body ∧ call.1 ∉ shape.updates := by
  have single : ∀ s ∈ largerStatements, ';' ∉ s := by decide
  have some : largerStatements ≠ [] := List.append_ne_nil_of_left_ne_nil (List.cons_ne_nil _ _) _
  have canonical : IsCanonical (largerStatements.filter fun s => ¬ IsChained s) sampleShape
      sampleCalls := by
    rw [show largerStatements.filter (fun s => ¬ IsChained s) =
      sampleStatements.filter fun s => ¬ IsChained s by decide]
    exact isCanonical_sample
  have pieces : splitStatements ([';'].intercalate largerStatements) = largerStatements :=
    Text.pieces_intercalate some single
  refine ⟨sampleShape, _, "z5i[450]".toList, "n4V.a1V()".toList, ("Q1Z".toList, "n4V.a1V()".toList),
    ofFragment_written some single canonical, isBody_written largerStatements, by decide, ?_,
    by decide, by decide, ?_, by decide⟩
  · rw [mem_passedOver_iff, pieces]
    decide
  · rw [mem_passedOver_iff, pieces]
    decide

end ResetShape

end HookGraft

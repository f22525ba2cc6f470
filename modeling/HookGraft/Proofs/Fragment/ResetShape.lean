import HookGraft.Fragment.ResetShape
import HookGraft.Proofs.Fallible
import HookGraft.Proofs.Fragment.Statement

/-!
# Which reset routines come apart

A reset routine comes apart if the statements in its body that are not calls through a chain have
one shape: three slots are cleared, and then six routines are called.

## Main definitions

* `IsBody`: what stands between the braces of a routine
* `ResetShape.ownStatements`: the statements of a body that are not calls through a chain
* `ResetShape.IsCanonical`: statements that clear three slots and call six routines

## Main results

* `routineBody_eq_ok_iff`: when a fragment has a body
* `ResetShape.ofFragment_eq_ok_iff`, `ResetShape.ofFragment_error`: when a reset routine comes apart,
  and how it fails to
* `ResetShape.ofFragment_canonical`: the specification of taking a reset routine apart
-/

namespace HookGraft

section Pieces

variable {rule what : String} {fragment body : Text} {pieces : List Text} {expected : Nat}
  {e : PatchError}

/-! ## Bodies -/

/-- What stands between the first opening brace of a fragment and the last semicolon behind it that
a closing brace follows. -/
def IsBody (fragment body : Text) : Prop :=
  ∃ head tail, '\x7b' ∉ head ∧ ¬ [';', '\x7d'] <:+: tail ∧
    fragment = head ++ '\x7b' :: (body ++ ';' :: '\x7d' :: tail)

theorem routineBody_eq_ok_iff : routineBody rule fragment = .ok body ↔ IsBody fragment body := by
  have apart : ';' ≠ '\x7d' := by decide
  rw [routineBody]
  constructor
  · intro h
    split at h
    · contradiction
    · rename_i head rest opened
      obtain ⟨first, rfl⟩ := Text.cutFirst?_singleton_eq_some_iff.1 opened
      split at h
      · contradiction
      · rename_i body' tail closed
        obtain ⟨last, rfl⟩ := (Text.cutLast?_pair_eq_some_iff apart).1 closed
        obtain rfl := Except.ok.inj h
        exact ⟨head, tail, first, last, rfl⟩
  · rintro ⟨head, tail, first, last, rfl⟩
    rw [Text.cutFirst?_singleton_eq_some_iff.2 ⟨first, rfl⟩]
    simp only [(Text.cutLast?_pair_eq_some_iff apart).2 ⟨last, rfl⟩]

theorem routineBody_error (h : routineBody rule fragment = .error e) :
    ∃ defect, e = .malformedFragment rule defect := by
  simp only [routineBody] at h
  split at h
  · exact ⟨_, (Except.error.inj h).symm⟩
  · split at h
    · exact ⟨_, (Except.error.inj h).symm⟩
    · contradiction

/-- A fragment has no more than one body. -/
theorem IsBody.unique {body' : Text} (h : IsBody fragment body) (h' : IsBody fragment body') :
    body = body' := by
  have here : routineBody "" fragment = .ok body := routineBody_eq_ok_iff.2 h
  exact Except.ok.inj (here.symm.trans (routineBody_eq_ok_iff.2 h'))

/-! ## Checks on the pieces -/

theorem expectCount_eq_ok_iff :
    expectCount rule what pieces expected = .ok () ↔ pieces.length = expected := by
  rw [expectCount]
  split
  · simpa
  · simpa

theorem expectCount_error (h : expectCount rule what pieces expected = .error e) :
    pieces.length ≠ expected ∧ e = .unexpectedShape rule what expected pieces.length := by
  rw [expectCount] at h
  split at h
  · contradiction
  · rename_i other
    exact ⟨other, (Except.error.inj h).symm⟩

theorem expectDistinct_error (h : expectDistinct rule what pieces = .error e) :
    ∃ defect, e = .malformedFragment rule defect := by
  simp only [expectDistinct] at h
  split at h
  · contradiction
  · exact ⟨_, (Except.error.inj h).symm⟩

end Pieces

namespace ResetShape

variable {rule : String} {fragment body statement slot : Text} {call : Text × Text}
  {statements : List Text} {shape : ResetShape} {calls : List (Text × Text)} {e : PatchError}

/-! ## Statements -/

/-- The statement that clears a slot. -/
def clearing (slot : Text) : Text := slot ++ ['=', '-', '1']

/-- The statement that calls a routine with some arguments. -/
def calling (call : Text × Text) : Text := call.1 ++ '(' :: (call.2 ++ [')'])

/-- The name of a slot, which may be any text without an equals sign. -/
structure IsSlotName (slot : Text) : Prop where
  proper : slot ≠ []
  plain : '=' ∉ slot

instance : DecidablePred IsSlotName := fun slot =>
  decidable_of_iff (slot ≠ [] ∧ '=' ∉ slot) ⟨fun h => ⟨h.1, h.2⟩, fun h => ⟨h.proper, h.plain⟩⟩

theorem clearedSlot_eq_ok_iff :
    clearedSlot rule statement = .ok slot ↔ IsSlotName slot ∧ statement = clearing slot := by
  rw [clearedSlot]
  constructor
  · intro h
    split at h
    · rename_i slot' value cut
      obtain ⟨plain, rfl⟩ := Text.cutFirst?_singleton_eq_some_iff.1 cut
      split at h
      · rename_i cleared
        obtain ⟨proper, rfl⟩ := cleared
        obtain rfl := Except.ok.inj h
        exact ⟨⟨by simpa using proper, plain⟩, rfl⟩
      · contradiction
    · contradiction
  · rintro ⟨name, rfl⟩
    have cut : Text.cutFirst? ['='] (clearing slot) = some (slot, ['-', '1']) :=
      Text.cutFirst?_singleton_eq_some_iff.2 ⟨name.plain, rfl⟩
    have proper : slot.isEmpty = false := List.isEmpty_eq_false_iff.2 name.proper
    simp [cut, proper]

theorem clearedSlot_error (h : clearedSlot rule statement = .error e) :
    ∃ defect, e = .malformedFragment rule defect := by
  simp only [clearedSlot] at h
  split at h
  · split at h
    · contradiction
    · exact ⟨_, (Except.error.inj h).symm⟩
  · exact ⟨_, (Except.error.inj h).symm⟩

/-- A plain name holds no parenthesis. -/
theorem not_mem_of_isPlain {name : Text} (h : IsPlain name) : '(' ∉ name := fun member => by
  have := h.plain '(' member
  revert this
  decide

theorem call?_eq_some_iff :
    call? statement = some call ↔ IsPlain call.1 ∧ statement = calling call := by
  obtain ⟨name, arguments⟩ := call
  simp only [call?, Option.bind_eq_bind, Option.bind_eq_some_iff, Text.dropStart?_eq_some_iff,
    Text.dropEnding?_eq_some_iff, isPlainName_iff, calling]
  constructor
  · rintro ⟨_, opening, _, rfl, h⟩
    split at h
    · rename_i plain
      obtain ⟨rfl, rfl⟩ := Prod.mk.inj (Option.some.inj h)
      have whole := List.prefix_iff_eq_append.1 (List.takeWhile_prefix (l := statement) (· != '('))
      exact ⟨plain, whole.symm.trans (congrArg _ opening)⟩
    · contradiction
  · rintro ⟨plain, rfl⟩
    have head := Text.headBefore_append_cons (arguments ++ [')']) (not_mem_of_isPlain plain)
    rw [head, List.drop_left]
    exact ⟨arguments ++ [')'], rfl, arguments, rfl, by rw [if_pos plain]⟩

theorem calledRoutine_eq_ok_iff :
    calledRoutine rule statement = .ok call ↔ IsPlain call.1 ∧ statement = calling call := by
  rw [← call?_eq_some_iff, calledRoutine]
  cases call? statement with
  | none => simp
  | some call' => simp

theorem calledRoutine_error (h : calledRoutine rule statement = .error e) :
    ∃ defect, e = .malformedFragment rule defect := by
  simp only [calledRoutine] at h
  split at h
  · contradiction
  · exact ⟨_, (Except.error.inj h).symm⟩

/-! ## The shape -/

/-- The statements of a body that are not calls through a chain. -/
def ownStatements (body : Text) : List Text := (splitStatements body).filter fun s => ¬ IsChained s

theorem filter_isChainCall (body : Text) :
    (splitStatements body).filter (fun s => !isChainCall s) = ownStatements body := by
  refine List.filter_congr fun s _ => ?_
  rw [Bool.eq_iff_iff, decide_eq_true_iff, Bool.not_eq_true', ← isChainCall_iff, Bool.not_eq_true]

/-- Statements that clear three slots and then call six routines. No slot and no routine comes
twice, and one of the calls at least has a boolean value as its argument. -/
structure IsCanonical (statements : List Text) (shape : ResetShape) (calls : List (Text × Text)) :
    Prop where
  statements_eq : statements = shape.slots.map clearing ++ calls.map calling
  updates_eq : shape.updates = calls.map Prod.fst
  three : shape.slots.length = 3
  six : calls.length = 6
  slots : ∀ slot ∈ shape.slots, IsSlotName slot
  updates : ∀ update ∈ shape.updates, IsPlain update
  slots_nodup : shape.slots.Nodup
  updates_nodup : shape.updates.Nodup
  flag : ∃ call ∈ calls, call.2 = "true".toList ∨ call.2 = "false".toList

theorem any_isFlag_iff : (calls.any fun call => isFlag call.2) = true ↔
    ∃ call ∈ calls, call.2 = "true".toList ∨ call.2 = "false".toList := by
  simp only [List.any_eq_true, isFlag, Bool.or_eq_true, beq_iff_eq]

/-- When a reset routine comes apart, and into what. -/
theorem ofFragment_eq_ok_iff : ofFragment rule fragment = .ok shape ↔
    ∃ body, IsBody fragment body ∧ ∃ calls, IsCanonical (ownStatements body) shape calls := by
  simp only [ofFragment, filter_isChainCall, Except.bind_eq_ok, routineBody_eq_ok_iff,
    Except.mapM_eq_ok_iff (fun _ _ => clearedSlot_eq_ok_iff),
    Except.mapM_eq_ok_iff (fun _ _ => calledRoutine_eq_ok_iff)]
  constructor
  · rintro ⟨body, isBody, _, counted, slots, ⟨named, cleared⟩, _, apart, calls, ⟨plain, called⟩,
      rest⟩
    obtain ⟨flagged, rest⟩ := Except.check_eq_ok.1 rest
    obtain ⟨_, apart', made⟩ := Except.bind_eq_ok.1 rest
    obtain rfl := Except.ok.inj made
    replace counted := expectCount_eq_ok_iff.1 counted
    have three := congrArg List.length cleared
    have six := congrArg List.length called
    rw [List.length_take, List.length_map, counted] at three
    rw [List.length_drop, List.length_map, counted] at six
    refine ⟨body, isBody, calls, ?_, rfl, three.symm, six.symm, named, ?_,
      expectDistinct_eq_ok_iff.1 apart, expectDistinct_eq_ok_iff.1 apart', ?_⟩
    · rw [← cleared, ← called, List.take_append_drop]
    · exact List.forall_mem_map.2 plain
    · rwa [Bool.not_eq_true', Bool.not_eq_false, any_isFlag_iff] at flagged
  · rintro ⟨body, isBody, calls, canonical⟩
    obtain ⟨slots, updates⟩ := shape
    obtain ⟨whole, rfl, three, six, named, plain, apart, apart', flagged⟩ := canonical
    have counted : (ownStatements body).length = slotCount + updateCount := by
      rw [whole, List.length_append, List.length_map, List.length_map, three, six]
      rfl
    have take : (slots.map clearing).length = slotCount := (List.length_map _).trans three
    refine ⟨body, isBody, (), expectCount_eq_ok_iff.2 counted, slots, ⟨named, ?_⟩, (),
      expectDistinct_eq_ok_iff.2 apart, calls, ⟨List.forall_mem_map.1 plain, ?_⟩, ?_⟩
    · rw [whole, List.take_left' take]
    · rw [whole, List.drop_left' take]
    · refine Except.check_eq_ok.2 ⟨?_, Except.bind_eq_ok.2 ⟨(), ?_, rfl⟩⟩
      · rwa [Bool.not_eq_true', Bool.not_eq_false, any_isFlag_iff]
      · exact expectDistinct_eq_ok_iff.2 apart'

/-- How a reset routine may fail to come apart. -/
theorem ofFragment_error (h : ofFragment rule fragment = .error e) :
    (∃ defect, e = .malformedFragment rule defect) ∨
      ∃ body, IsBody fragment body ∧ (ownStatements body).length ≠ 9 ∧
        e = .unexpectedShape rule "statements" 9 (ownStatements body).length := by
  simp only [ofFragment, filter_isChainCall, Except.bind_eq_error] at h
  rcases h with body | ⟨body, isBody, count | ⟨-, -, cleared | ⟨slots, -, distinct | ⟨-, -, called |
    ⟨calls, -, h⟩⟩⟩⟩⟩
  · exact .inl (routineBody_error body)
  · exact .inr ⟨body, routineBody_eq_ok_iff.1 isBody, expectCount_error count⟩
  · obtain ⟨statement, -, failed⟩ := Except.exists_error_of_mapM cleared
    exact .inl (clearedSlot_error failed)
  · exact .inl (expectDistinct_error distinct)
  · obtain ⟨statement, -, failed⟩ := Except.exists_error_of_mapM called
    exact .inl (calledRoutine_error failed)
  · split at h
    · rcases Except.bind_eq_error.1 h with noFlag | ⟨never, failed, -⟩
      · exact .inl ⟨_, (Except.error.inj noFlag).symm⟩
      · contradiction
    · rcases Except.bind_eq_error.1 h with distinct | ⟨done, -, made⟩
      · exact .inl (expectDistinct_error distinct)
      · contradiction

/-- How many slots and routines a reset routine has. -/
theorem length_of_ofFragment (h : ofFragment rule fragment = .ok shape) :
    shape.slots.length = slotCount ∧ shape.updates.length = updateCount := by
  obtain ⟨body, -, calls, canonical⟩ := ofFragment_eq_ok_iff.1 h
  rw [canonical.updates_eq, List.length_map]
  exact ⟨canonical.three, canonical.six⟩

/-- With another number of statements than nine, a routine has another shape. -/
theorem ofFragment_of_length_ne (isBody : IsBody fragment body)
    (other : (ownStatements body).length ≠ 9) : ofFragment rule fragment =
      .error (.unexpectedShape rule "statements" 9 (ownStatements body).length) := by
  have count : expectCount rule "statements" (ownStatements body) (slotCount + updateCount) =
      .error (.unexpectedShape rule "statements" 9 (ownStatements body).length) := if_neg other
  simp only [ofFragment, filter_isChainCall, routineBody_eq_ok_iff.2 isBody, count, bind,
    Except.bind]

/-- A body that is written out with a semicolon behind each statement has these statements. -/
theorem ownStatements_intercalate (some : statements ≠ [])
    (single : ∀ s ∈ statements, ';' ∉ s) :
    ownStatements ([';'].intercalate statements) = statements.filter fun s => ¬ IsChained s := by
  rw [ownStatements, splitStatements, Text.pieces_intercalate some single]

/-- A fragment without a body is malformed. A body with other than nine statements of its own has
another shape. If there are nine, the routine comes apart into the slots and routines in them, if
they have these in the shape of a reset routine, and is malformed otherwise. So the slots and
routines can be read off what is written with them, wherever calls through a chain stand. -/
theorem ofFragment_canonical (rule : String) :
    (∀ fragment,
      ((¬ ∃ body, IsBody fragment body) →
        ∃ defect, ofFragment rule fragment = .error (.malformedFragment rule defect)) ∧
      ∀ body, IsBody fragment body →
        ((ownStatements body).length ≠ 9 → ofFragment rule fragment =
          .error (.unexpectedShape rule "statements" 9 (ownStatements body).length)) ∧
        ((ownStatements body).length = 9 →
          (∀ shape, ofFragment rule fragment = .ok shape ↔
            ∃ calls, IsCanonical (ownStatements body) shape calls) ∧
          ((¬ ∃ shape calls, IsCanonical (ownStatements body) shape calls) →
            ∃ defect, ofFragment rule fragment = .error (.malformedFragment rule defect)))) ∧
    ∀ head tail statements shape calls, '\x7b' ∉ head → ¬ [';', '\x7d'] <:+: tail →
      (∀ s ∈ statements, ';' ∉ s) →
      IsCanonical (statements.filter fun s => ¬ IsChained s) shape calls →
      ofFragment rule (head ++ '\x7b' :: ([';'].intercalate statements ++ ';' :: '\x7d' :: tail)) =
        .ok shape := by
  have malformed : ∀ fragment, (∀ body, IsBody fragment body → (ownStatements body).length = 9) →
      (∀ shape, ofFragment rule fragment ≠ .ok shape) →
      ∃ defect, ofFragment rule fragment = .error (.malformedFragment rule defect) := by
    intro fragment nine never
    cases apart : ofFragment rule fragment with
    | ok shape => exact absurd apart (never shape)
    | error e =>
      rcases ofFragment_error apart with ⟨defect, rfl⟩ | ⟨body, isBody, other, -⟩
      · exact ⟨defect, rfl⟩
      · exact absurd (nine body isBody) other
  refine ⟨fun fragment => ⟨fun none => ?noBody, fun body isBody => ⟨?count, fun nine => ⟨?apart, ?off⟩⟩⟩,
    ?written⟩
  case noBody =>
    refine malformed fragment (fun body isBody => absurd ⟨body, isBody⟩ none) fun shape apart => ?_
    obtain ⟨body, isBody, -⟩ := ofFragment_eq_ok_iff.1 apart
    exact none ⟨body, isBody⟩
  case count => exact ofFragment_of_length_ne isBody
  case apart =>
    intro shape
    rw [ofFragment_eq_ok_iff]
    constructor
    · rintro ⟨body', isBody', canonical⟩
      rwa [isBody.unique isBody']
    · exact fun canonical => ⟨body, isBody, canonical⟩
  case off =>
    intro never
    refine malformed fragment (fun body' isBody' => isBody'.unique isBody ▸ nine)
      fun shape apart => ?_
    obtain ⟨body', isBody', canonical⟩ := ofFragment_eq_ok_iff.1 apart
    rw [isBody'.unique isBody] at canonical
    exact never ⟨shape, canonical⟩
  case written =>
    intro head tail statements shape calls first last single canonical
    have some : statements ≠ [] := by
      rintro rfl
      have := congrArg List.length canonical.statements_eq
      rw [List.filter_nil, List.length_append, List.length_map, canonical.three] at this
      simp only [List.length_nil] at this
      omega
    refine ofFragment_eq_ok_iff.2 ⟨_, ⟨head, tail, first, last, rfl⟩, calls, ?_⟩
    rwa [ownStatements_intercalate some single]

/-! ## A sample -/

/-- What the sample is taken apart into. -/
def sampleShape : ResetShape where
  slots := ["z5i[977]".toList, "z5i[915]".toList, "z5i[1462]".toList]
  updates := ["p4Z", "v4Z", "B4Z", "M4Z", "y0Z", "I6s"].map String.toList

/-- The calls of the sample. -/
def sampleCalls : List (Text × Text) :=
  sampleShape.updates.map fun update => (update, if update = "B4Z".toList then "true".toList else [])

/-- The statements of the sample, with a call through a chain before and behind the slots. -/
def sampleStatements : List Text :=
  "T6a.s()".toList :: sampleShape.slots.map clearing ++ "k.t.u()".toList :: sampleCalls.map calling

theorem isCanonical_sample :
    IsCanonical (sampleStatements.filter fun s => ¬ IsChained s) sampleShape sampleCalls where
  statements_eq := by decide
  updates_eq := by decide
  three := rfl
  six := rfl
  slots := by decide
  updates := by decide
  slots_nodup := by decide
  updates_nodup := by decide
  flag := by decide

/-- The sample is a fragment with nine statements of its own. It comes apart into its slots and
routines. -/
theorem ofFragment_sample :
    let body := [';'].intercalate sampleStatements
    let fragment := "function j0Z()".toList ++ '\x7b' :: (body ++ [';', '\x7d'])
    IsBody fragment body ∧ (ownStatements body).length = 9 ∧
      IsCanonical (ownStatements body) sampleShape sampleCalls ∧
      ofFragment "reset-state" fragment = .ok sampleShape := by
  intro body fragment
  have single : ∀ s ∈ sampleStatements, ';' ∉ s := by decide
  have own : ownStatements body = sampleStatements.filter fun s => ¬ IsChained s :=
    ownStatements_intercalate (List.cons_ne_nil _ _) single
  have first : '\x7b' ∉ "function j0Z()".toList := by decide
  have last : ¬ [';', '\x7d'] <:+: ([] : Text) := by simp
  refine ⟨⟨_, [], first, last, rfl⟩, ?_, own ▸ isCanonical_sample, ?_⟩
  · rw [own]
    decide
  · exact (ofFragment_canonical "reset-state").2 _ [] sampleStatements sampleShape sampleCalls first
      last single isCanonical_sample

end ResetShape

end HookGraft

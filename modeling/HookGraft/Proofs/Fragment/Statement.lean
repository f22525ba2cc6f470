import HookGraft.Fragment.Statement
import HookGraft.Text.Lemmas

/-!
# The statements of a fragment

What the checks on the pieces of a fragment accept, said without the functions that decide it.

## Main definitions

* `IsChained`: statements that call something through a chain of property accesses
* `IsPlain`: names made of letters, numbers, underscores and dollar signs

## Main results

* `isChainCall_iff`, `isPlainName_iff`: the functions decide these
* `isChainCall_exact`: where the dot and the parentheses of such a call stand, and what never is one
* `expectDistinct_eq_ok_iff`: names are accepted if none comes twice
-/

namespace HookGraft

variable {statement name : Text}

/-! ## Calls through a chain -/

/-- Some text, a dot, some more text and a pair of parentheses, with anything behind. -/
def IsChained (statement : Text) : Prop :=
  ∃ before between after, before ≠ [] ∧ between ≠ [] ∧
    statement = before ++ '.' :: (between ++ '(' :: ')' :: after)

theorem hasLateCall_iff {text : Text} :
    hasLateCall text = true ↔
      ∃ between after, between ≠ [] ∧ text = between ++ '(' :: ')' :: after := by
  rw [hasLateCall, Text.hasInfix_iff]
  cases text with
  | nil => simp
  | cons c rest =>
    constructor
    · rintro ⟨skipped, after, rfl⟩
      exact ⟨c :: skipped, after, List.cons_ne_nil c skipped, by simp⟩
    · rintro ⟨between, after, proper, whole⟩
      obtain ⟨d, skipped, rfl⟩ := List.exists_cons_of_ne_nil proper
      obtain ⟨rfl, rfl⟩ := List.cons.inj whole
      exact ⟨skipped, after, by simp⟩

theorem hasDottedCall_iff {text : Text} :
    hasDottedCall text = true ↔ ∃ before between after, between ≠ [] ∧
      text = before ++ '.' :: (between ++ '(' :: ')' :: after) := by
  induction text with
  | nil => simp [hasDottedCall]
  | cons c rest ih =>
    rw [hasDottedCall, Bool.or_eq_true, Bool.and_eq_true, beq_iff_eq, hasLateCall_iff, ih]
    constructor
    · rintro (⟨rfl, between, after, proper, rfl⟩ | ⟨before, between, after, proper, rfl⟩)
      · exact ⟨[], between, after, proper, rfl⟩
      · exact ⟨c :: before, between, after, proper, rfl⟩
    · rintro ⟨before, between, after, proper, whole⟩
      cases before with
      | nil =>
        obtain ⟨rfl, rfl⟩ := List.cons.inj whole
        exact .inl ⟨rfl, between, after, proper, rfl⟩
      | cons d before =>
        obtain ⟨rfl, rfl⟩ := List.cons.inj whole
        exact .inr ⟨before, between, after, proper, rfl⟩

theorem isChainCall_iff : isChainCall statement = true ↔ IsChained statement := by
  rw [isChainCall, hasDottedCall_iff]
  cases statement with
  | nil => simp [IsChained]
  | cons c rest =>
    constructor
    · rintro ⟨before, between, after, proper, rfl⟩
      exact ⟨c :: before, between, after, List.cons_ne_nil c before, proper, rfl⟩
    · rintro ⟨before, between, after, some, proper, whole⟩
      obtain ⟨d, before, rfl⟩ := List.exists_cons_of_ne_nil some
      obtain ⟨rfl, rfl⟩ := List.cons.inj whole
      exact ⟨before, between, after, proper, rfl⟩

instance : DecidablePred IsChained := fun _ => decidable_of_iff _ isChainCall_iff

/-- What follows a call through a chain does not undo it. -/
theorem IsChained.append (chained : IsChained statement) (more : Text) :
    IsChained (statement ++ more) := by
  obtain ⟨before, between, after, some, proper, rfl⟩ := chained
  exact ⟨before, between, after ++ more, some, proper, by simp⟩

theorem IsChained.dot_mem (chained : IsChained statement) : '.' ∈ statement := by
  obtain ⟨before, between, after, -, -, rfl⟩ := chained
  exact List.mem_append_right before List.mem_cons_self

theorem IsChained.call_infix (chained : IsChained statement) : ['(', ')'] <:+: statement := by
  obtain ⟨before, between, after, -, -, rfl⟩ := chained
  exact ⟨before ++ '.' :: between, after, by simp⟩

/-- Said by offsets in bytes: a dot that is not at the beginning, and a pair of parentheses that is
not at the beginning of what stands behind the dot. -/
theorem isChained_iff_offsets : IsChained statement ↔
    ∃ dot call before rest between after, 0 < dot ∧ 0 < call ∧
      Text.seekByte? dot statement = some (before, '.' :: rest) ∧
      Text.seekByte? call rest = some (between, '(' :: ')' :: after) := by
  have pos {text : Text} (proper : text ≠ []) : 0 < Text.utf8Size text :=
    Nat.pos_of_ne_zero (mt Text.utf8Size_eq_zero_iff.1 proper)
  constructor
  · rintro ⟨before, between, after, some, proper, rfl⟩
    exact ⟨_, _, before, _, between, after, pos some, pos proper,
      Text.seekByte?_eq_some_iff.2 ⟨rfl, rfl⟩, Text.seekByte?_eq_some_iff.2 ⟨rfl, rfl⟩⟩
  · rintro ⟨dot, call, before, rest, between, after, dotPos, callPos, seekDot, seekCall⟩
    obtain ⟨rfl, rfl⟩ := Text.seekByte?_eq_some_iff.1 seekDot
    obtain ⟨rfl, rfl⟩ := Text.seekByte?_eq_some_iff.1 seekCall
    refine ⟨before, between, after, ?_, ?_, rfl⟩
    · rintro rfl
      exact Nat.lt_irrefl 0 dotPos
    · rintro rfl
      exact Nat.lt_irrefl 0 callPos

/-- A statement counts as a call made through a chain just if it is some text, a dot, some more text
and a pair of parentheses, with anything behind; the offsets of the dot and of the parentheses are
then above zero. So what is written behind a statement never takes this away, and no statement
without a dot or without a pair of parentheses is one. -/
theorem isChainCall_exact (statement : Text) :
    (isChainCall statement = true ↔ ∃ a b c : Text, a ≠ [] ∧ b ≠ [] ∧
      statement = a ++ ['.'] ++ b ++ ['(', ')'] ++ c) ∧
    (isChainCall statement = true ↔ ∃ dot call before rest between after, 0 < dot ∧ 0 < call ∧
      Text.seekByte? dot statement = some (before, '.' :: rest) ∧
      Text.seekByte? call rest = some (between, '(' :: ')' :: after)) ∧
    (∀ more, isChainCall statement = true → isChainCall (statement ++ more) = true) ∧
    ('.' ∉ statement ∨ ¬ ['(', ')'] <:+: statement → isChainCall statement = false) := by
  refine ⟨?_, isChainCall_iff.trans isChained_iff_offsets, fun more chained => ?_, fun lacks => ?_⟩
  · rw [isChainCall_iff, IsChained]
    simp only [List.append_assoc, List.cons_append, List.nil_append]
  · exact isChainCall_iff.2 ((isChainCall_iff.1 chained).append more)
  · rw [← Bool.not_eq_true, isChainCall_iff]
    intro chained
    rcases lacks with noDot | noCall
    · exact noDot chained.dot_mem
    · exact noCall chained.call_infix

/-- A call behind a character of two bytes, the same with more behind it, and texts that only begin
with a dot, have nothing between the dot and the parentheses, or hold no dot. -/
theorem isChainCall_exact_samples :
    isChainCall "é.a()".toList = true ∧
      isChainCall ("é.a()".toList ++ "+b.()".toList) = true ∧
      Text.seekByte? 2 "é.a()".toList = some (['é'], ".a()".toList) ∧
      isChainCall ".a()".toList = false ∧ isChainCall "é.()".toList = false ∧
      isChainCall "p4Z()".toList = false := by
  obtain ⟨-, -, longer, -⟩ := isChainCall_exact "é.a()".toList
  obtain ⟨-, -, -, without⟩ := isChainCall_exact "p4Z()".toList
  have chained : isChainCall "é.a()".toList = true := by decide
  exact ⟨chained, longer _ chained, by decide, by decide, by decide, without (.inl (by decide))⟩

/-! ## Names -/

/-- Some letters, numbers, underscores and dollar signs. -/
structure IsPlain (name : Text) : Prop where
  proper : name ≠ []
  plain : ∀ c ∈ name, Unicode.isAlphanumeric c = true ∨ c = '_' ∨ c = '$'

theorem isPlainName_iff : isPlainName name = true ↔ IsPlain name := by
  have members : (name.all fun c => Unicode.isAlphanumeric c || c == '_' || c == '$') = true ↔
      ∀ c ∈ name, Unicode.isAlphanumeric c = true ∨ c = '_' ∨ c = '$' := by
    simp [List.all_eq_true, or_assoc]
  rw [isPlainName, Bool.and_eq_true, members, Bool.not_eq_true', List.isEmpty_eq_false_iff]
  exact ⟨fun h => ⟨h.1, h.2⟩, fun h => ⟨h.proper, h.plain⟩⟩

instance : DecidablePred IsPlain := fun _ => decidable_of_iff _ isPlainName_iff

theorem firstRepeated?_eq_none_iff {seen names : List Text} :
    firstRepeated? seen names = none ↔ names.Nodup ∧ ∀ name ∈ names, name ∉ seen := by
  induction names generalizing seen with
  | nil => simp [firstRepeated?]
  | cons name rest ih =>
    simp only [firstRepeated?, List.contains_iff_mem]
    by_cases member : name ∈ seen
    · simp [member]
    · rw [if_neg member, ih]
      constructor
      · rintro ⟨distinct, others⟩
        have apart : name ∉ rest := fun again => others name again List.mem_cons_self
        refine ⟨List.nodup_cons.2 ⟨apart, distinct⟩, List.forall_mem_cons.2 ⟨member, ?_⟩⟩
        exact fun other among => fun before => others other among (List.mem_cons_of_mem name before)
      · rintro ⟨distinct, fresh⟩
        obtain ⟨apart, distinct⟩ := List.nodup_cons.1 distinct
        obtain ⟨-, others⟩ := List.forall_mem_cons.1 fresh
        refine ⟨distinct, fun other among before => ?_⟩
        rcases List.mem_cons.1 before with rfl | earlier
        · exact apart among
        · exact others other among earlier

/-- Names are accepted if none comes twice. -/
theorem expectDistinct_eq_ok_iff {rule what : String} {names : List Text} :
    expectDistinct rule what names = .ok () ↔ names.Nodup := by
  have fresh : names.Nodup ↔ firstRepeated? [] names = none := by simp [firstRepeated?_eq_none_iff]
  rw [fresh, expectDistinct]
  cases firstRepeated? [] names with
  | none => simp
  | some name => simp

end HookGraft

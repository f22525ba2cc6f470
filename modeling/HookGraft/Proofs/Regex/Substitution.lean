import HookGraft.Proofs.Regex.Scanner

/-!
# Replacing the occurrences of a text

A scanner for one text goes from one occurrence to the next. What it inserts behind each of them
makes the scan a replacement: the parts of the text between the occurrences stay, and a new text
stands in the place of the old one. If no occurrence begins inside another one, these are all places
where the text begins.

## Main definitions

* `Text.count`: the number of places where a text begins
* `Text.IsUnbordered`: no occurrence of a text begins inside another one
* `Text.Substitutes`: another text in the place of every occurrence of a text
* `Scanner.literal`: reads one text

## Main results

* `Scanner.substitutes_insertAfter`: what is inserted behind every occurrence
-/

namespace HookGraft

namespace Text

variable {part front rest text : Text}

/-- The number of places where a text begins in another one. -/
def count (part : Text) : Text → Nat
  | [] => 0
  | c :: rest => (if part.isPrefixOf (c :: rest) then 1 else 0) + count part rest

/-- A text begins nowhere just if it does not occur. -/
theorem count_eq_zero_iff (proper : part ≠ []) : count part text = 0 ↔ ¬ part <:+: text := by
  induction text with
  | nil => simpa [count] using proper
  | cons c rest ih =>
    rw [count, Nat.add_eq_zero_iff, ih, List.infix_cons_iff, not_or, ← List.isPrefixOf_iff_prefix]
    simp

/-- A text that begins nowhere in the front of another one begins only behind it. -/
theorem count_append_of_none
    (none : ∀ b t, front = b ++ t → t ≠ [] → ¬ part <+: t ++ rest) :
    count part (front ++ rest) = count part rest := by
  induction front with
  | nil => rfl
  | cons c front ih =>
    have here : part.isPrefixOf (c :: (front ++ rest)) = false := by
      rw [← Bool.not_eq_true, List.isPrefixOf_iff_prefix]
      exact none [] (c :: front) rfl (List.cons_ne_nil _ _)
    have behind := ih fun b t split => none (c :: b) t (congrArg (c :: ·) split)
    rw [List.cons_append, count, here, behind]
    exact Nat.zero_add _

/-- No occurrence of a text begins inside another one. -/
def IsUnbordered (part : Text) : Prop :=
  ∀ after, count part (part ++ after) = count part after + 1

/-- Another text stands in the place of every occurrence of a text. The parts in between stay. -/
def Substitutes (old new text out : Text) : Prop :=
  ∃ parts, text = old.intercalate parts ∧ out = new.intercalate parts ∧
    parts.length = count old text + 1 ∧ ∀ part ∈ parts, ¬ old <:+: part

theorem intercalate_cons {parts : List Text} (sep first : Text) (some : parts ≠ []) :
    sep.intercalate (first :: parts) = first ++ sep ++ sep.intercalate parts := by
  obtain ⟨second, others, rfl⟩ := List.exists_cons_of_ne_nil some
  simp [List.intercalate]

end Text

namespace Scanner

/-- Reads one text. -/
def literal (part : Text) (proper : part ≠ []) : Scanner (· = part) where
  read? text := (Text.dropStart? part text).map (part, ·)
  read?_eq_some_iff := by
    intro text fragment after
    simp only [Option.map_eq_some_iff, Text.dropStart?_eq_some_iff, Prod.mk.injEq]
    constructor
    · rintro ⟨_, rfl, rfl, rfl⟩
      exact ⟨rfl, rfl⟩
    · rintro ⟨rfl, rfl⟩
      exact ⟨after, rfl, rfl, rfl⟩
  ne_nil := by
    rintro _ rfl
    exact proper

variable {old text before fragment after : Text} (s : Scanner (· = old))

/-- The text does not occur before its first occurrence. -/
theorem not_infix_of_cutFirst? (found : s.cutFirst? text = some (before, fragment, after)) :
    ¬ old <:+: before := by
  obtain ⟨whole, rfl, least⟩ := s.cutFirst?_eq_some_iff.1 found
  rintro ⟨b, a, rfl⟩
  have le := least b fragment (a ++ fragment ++ after) (by simp [whole]) rfl
  have := List.length_pos_iff.2 (s.ne_nil rfl)
  simp only [List.length_append] at le
  omega

/-- A text that has none inside begins at its first occurrence and then only behind it. -/
theorem count_of_cutFirst? (unbordered : old.IsUnbordered)
    (found : s.cutFirst? text = some (before, fragment, after)) :
    Text.count old text = Text.count old after + 1 := by
  obtain ⟨rfl, rfl, least⟩ := s.cutFirst?_eq_some_iff.1 found
  rw [List.append_assoc, Text.count_append_of_none, unbordered]
  rintro b t rfl some ⟨a, start⟩
  have le := least b fragment a (by simp only [List.append_assoc, start]) rfl
  have := List.length_pos_iff.2 some
  rw [List.length_append] at le
  omega

/-- What is inserted behind every occurrence of a text that has none inside. -/
theorem substitutes_insertAfter (unbordered : old.IsUnbordered) (code text : Text) :
    Text.Substitutes old (old ++ code) text (s.insertAfter code text).1 ∧
      (s.insertAfter code text).2 = Text.count old text := by
  induction size : text.length using Nat.strong_induction_on generalizing text with
  | _ n ih =>
    cases found : s.cutFirst? text with
    | none =>
      have absent : ¬ old <:+: text := s.cutFirst?_eq_none_iff.1 found old rfl
      have none : Text.count old text = 0 := (Text.count_eq_zero_iff (s.ne_nil rfl)).2 absent
      rw [s.insertAfter_of_none found, none]
      exact ⟨⟨[text], by simp, by simp, by simp [none], by simpa using absent⟩, rfl⟩
    | some result =>
      obtain ⟨before, fragment, after⟩ := result
      obtain ⟨⟨parts, whole, out, length, free⟩, sites⟩ :=
        ih _ (size ▸ s.length_lt_of_cutFirst? found) after rfl
      have count := s.count_of_cutFirst? unbordered found
      have some : parts ≠ [] := List.ne_nil_of_length_pos (by omega)
      obtain ⟨split, same, -⟩ := s.cutFirst?_eq_some_iff.1 found
      rw [s.insertAfter_of_some found, count, sites]
      refine ⟨⟨before :: parts, ?_, ?_, by rw [count, List.length_cons, length], ?_⟩, rfl⟩
      · rw [Text.intercalate_cons _ _ some, ← whole, split, same]
      · rw [Text.intercalate_cons _ _ some, ← out, same, List.append_assoc before]
      · exact List.forall_mem_cons.2 ⟨s.not_infix_of_cutFirst? found, free⟩

end Scanner

end HookGraft

import HookGraft.Fragment.Routine
import HookGraft.Text.Lemmas

/-!
# Definitions inside fragments

A fragment that begins with the definition of a routine may hold other definitions. This says where
these can begin, and how the routine is named.

## Main definitions

* `keyword`: what a definition begins with
* `Encloses`: a fragment that begins with the definition of a routine, and holds no other

## Main results

* `encloses_iff`: when the routine that a fragment begins with encloses it
* `routineName_eq_ok`: a routine is named by what stands before the first parenthesis
* `prefix_of_routineBody`: the body of a routine lies between the braces
-/

namespace HookGraft

/-- What a definition begins with. -/
def keyword : Text := "function ".toList

/-- A text without blanks holds no definition. -/
theorem not_keyword_infix {t : Text} (noBlank : ' ' ∉ t) : ¬ keyword <:+: t := fun inside =>
  noBlank (inside.subset (by decide))

/-- A fragment that begins with the definition of a routine, whose name has three characters, and
holds no other definition. -/
structure Encloses (routine fragment : Text) : Prop where
  length : routine.length = 3
  plain : isPlainName routine = true
  alone : ∃ rest, fragment = keyword ++ (routine ++ ("()".toList ++ rest)) ∧ ¬ keyword <:+: rest

/-- No definition begins behind the parentheses of a routine that encloses a fragment. -/
theorem Encloses.not_infix_drop {routine fragment : Text} (h : Encloses routine fragment) :
    ¬ keyword <:+: fragment.drop (keyword.length + 5) := by
  obtain ⟨three, -, rest, rfl, alone⟩ := h
  have head : (keyword ++ routine ++ "()".toList).length = keyword.length + 5 := by
    rw [List.length_append, List.length_append, three]
    rfl
  rwa [← List.append_assoc, ← List.append_assoc, List.drop_left' head]

/-- The routine that a fragment begins with, named up to a parenthesis, encloses the fragment just
if all three characters in the place of the name are its name, and no other definition follows. -/
theorem encloses_iff {head rest : Text} (three : head.length = 3)
    (plain : isPlainName (head.headBefore '(') = true) :
    Encloses (head.headBefore '(') (keyword ++ (head ++ ("()".toList ++ rest))) ↔
      '(' ∉ head ∧ ¬ keyword <:+: rest := by
  constructor
  · rintro ⟨whole, -, rest', split, alone⟩
    replace whole := Text.length_headBefore_eq_iff.1 (whole.trans three.symm)
    rw [Text.headBefore_of_not_mem whole] at split
    have behind := List.append_cancel_left (List.append_cancel_left split)
    rw [List.append_cancel_left behind]
    exact ⟨whole, alone⟩
  · rintro ⟨whole, alone⟩
    rw [Text.headBefore_of_not_mem whole] at plain ⊢
    exact ⟨three, plain, rest, rfl, alone⟩

/-- A routine is named by what stands before the first parenthesis. -/
theorem routineName_eq_ok {rule : String} {head rest routine : Text}
    (h : routineName rule (keyword ++ (head ++ '(' :: rest)) = .ok routine) :
    routine = head.headBefore '(' ∧ isPlainName routine = true := by
  have start : Text.dropStart? "function ".toList (keyword ++ (head ++ '(' :: rest)) =
      some (head ++ '(' :: rest) := Text.dropStart?_eq_some_iff.2 rfl
  simp only [routineName, start, Text.headBefore_append_delimiter] at h
  split at h
  · rename_i named
    obtain rfl := Except.ok.inj h
    exact ⟨rfl, named.2⟩
  · contradiction

/-- A routine whose name is plain has no brace in its name. -/
theorem brace_not_mem_of_isPlainName {routine : Text} (plain : isPlainName routine = true) :
    '\x7b' ∉ routine := fun member => by
  have others := (Bool.and_eq_true_iff.1 plain).2
  have plainBrace := List.all_eq_true.1 others _ member
  revert plainBrace
  decide

/-- The body of a routine begins behind the first brace and ends before the last one. -/
theorem prefix_of_routineBody {rule : String} {before inner body : Text} (first : '\x7b' ∉ before)
    (h : routineBody rule (before ++ '\x7b' :: (inner ++ ['\x7d'])) = .ok body) :
    body <+: inner := by
  simp only [routineBody, Text.cutFirst?_append_cons _ first] at h
  split at h
  · contradiction
  · rename_i body' after cut
    obtain rfl := Except.ok.inj h
    have whole := (Text.cutLast?_eq_some_iff.1 cut).1
    rw [List.append_assoc] at whole
    rcases List.append_eq_append_iff.1 whole with ⟨more, rfl, split⟩ | ⟨more, rfl, -⟩
    · have room := congrArg List.length split
      simp only [List.length_append, List.length_cons, List.length_nil] at room
      omega
    · exact List.prefix_append body' more

end HookGraft

import HookGraft.Proofs.Pattern.InPlace
import HookGraft.Proofs.Regex.Evaluation
import HookGraft.Proofs.Rule.TwoNamespaces

/-!
# Which colour pickers are found

The rule looks at the matches that a search from left to right yields, each as long as it can be,
and accepts those that the helper follows. A text of the shape of a picker with the helper behind it
need not be among them: it may begin inside a match that is not accepted, or be the beginning of a
longer one. Such a match ends behind the beginning of the helper, or too early.

## Main definitions

* `ColourPicker.IsPicker`: texts of the shape of a picker
* `ColourPicker.Hides`: a match covers a picker and is not accepted

## Main results

* `ColourPicker.picker_describes`: the signature stands for the shape
* `ColourPicker.hidden_iff`: when no picker is found, and which match hides a picker
* `ColourPicker.hidden_by_longer`: a picker that is followed by a short helper is hidden
-/

namespace HookGraft.ColourPicker

open Discovery Regex

variable {text before t between rest : Text} {inputId : String} {b b' : Bindings} {m : Match}

/-! ## The shape -/

/-- The head of the method, with a key and four parameters. -/
def IsHead (t : Text) : Prop :=
  ∃ key p q r s, IsSpan 10 25 key ∧ IsSpan 3 4 p ∧ IsSpan 3 4 q ∧ IsSpan 3 4 r ∧ IsSpan 3 4 s ∧
    t = ["this[".toList, key, "]=function(".toList, p, [','], q, [','], r, [','], s,
      ")\x7b".toList].flatten

/-- An assignment of one slot to another. -/
def IsSlotAssignment (t : Text) : Prop :=
  ∃ target index source key, IsSpan 3 4 target ∧ IsSpan 0 25 index ∧ IsSpan 3 4 source ∧
    IsSpan 0 30 key ∧
    t = [target, ['['], index, "]=".toList, source, ['['], key, "];".toList].flatten

/-- The body of the method with the closing brace and semicolon. Three assignments stand in it, and
a call with the value false. -/
def IsRest (t : Text) : Prop :=
  ∃ (opening : Text) (assignments : List Text) (gap routine ending : Text),
    IsSpan 50 250 opening ∧ assignments.length = 3 ∧ (∀ u ∈ assignments, IsSlotAssignment u) ∧
    IsSpan 0 75 gap ∧ IsSpan 3 4 routine ∧ IsSpan 0 75 ending ∧
    t = [opening, assignments.flatten, gap, routine, "(false)".toList, ending,
      ";\x7d;".toList].flatten

/-- The method. -/
def IsPicker (t : Text) : Prop := ∃ s u, IsHead s ∧ IsRest u ∧ t = s ++ u

/-- A match covers the beginning of a picker, but the helper does not follow it. The match goes on
behind the beginning of the helper, or it ends inside the picker, where a carriage return comes
before the helper or the helper is too far away. -/
structure Hides (before t between : Text) (m : Match) : Prop where
  rejected : helperFollows m = false
  fragment : IsPicker m.whole.text
  start : m.whole.start.before.length ≤ before.length
  stop : before.length < m.whole.stop.before.length
  misses : (before ++ t ++ between).length < m.whole.stop.before.length ∨
    ∃ kept lost, t = kept ++ lost ∧ lost ≠ [] ∧
      m.whole.stop.before.length = (before ++ kept).length ∧
      ('\r' ∈ lost ∨ window < (lost ++ between).length)

theorem three_describes : (span 3 4).Describes (IsSpan 3 4) := span_describes (by decide)

theorem head_describes : head.Describes IsHead := by
  have parts := Describes.inOrder
    (.cons (Describes.text "this[".toList)
      (.cons ((span_describes (by decide : 10 ≤ 25)).group 2)
      (.cons (Describes.text "]=function(".toList) (.cons three_describes
      (.cons (Describes.text [',']) (.cons three_describes
      (.cons (Describes.text [',']) (.cons three_describes
      (.cons (Describes.text [',']) (.cons three_describes
      (.cons (Describes.text ")\x7b".toList) .nil)))))))))))
  refine parts.congr fun t => ?_
  constructor
  · rintro ⟨_, _, rfl, ⟨key, _, isKey, ⟨_, _, rfl, ⟨p, _, isP, ⟨_, _, rfl, ⟨q, _, isQ, ⟨_, _, rfl,
      ⟨r, _, isR, ⟨_, _, rfl, ⟨s, _, isS, ⟨_, _, rfl, rfl, rfl⟩, rfl⟩, rfl⟩, rfl⟩, rfl⟩, rfl⟩, rfl⟩,
      rfl⟩, rfl⟩, rfl⟩, rfl⟩
    exact ⟨key, p, q, r, s, isKey, isP, isQ, isR, isS, by simp⟩
  · rintro ⟨key, p, q, r, s, isKey, isP, isQ, isR, isS, rfl⟩
    exact ⟨_, _, rfl, ⟨key, _, isKey, ⟨_, _, rfl, ⟨p, _, isP, ⟨_, _, rfl, ⟨q, _, isQ, ⟨_, _, rfl,
      ⟨r, _, isR, ⟨_, _, rfl, ⟨s, _, isS, ⟨_, _, rfl, rfl, rfl⟩, rfl⟩, rfl⟩, rfl⟩, rfl⟩, rfl⟩, rfl⟩,
      rfl⟩, rfl⟩, rfl⟩, by simp⟩

theorem slotAssignment_describes : slotAssignment.Describes IsSlotAssignment := by
  have parts := Describes.inOrder
    (.cons three_describes (.cons (Describes.text ['['])
      (.cons (span_describes (by decide : 0 ≤ 25)) (.cons (Describes.text "]=".toList)
      (.cons three_describes (.cons (Describes.text ['['])
      (.cons (span_describes (by decide : 0 ≤ 30)) (.cons (Describes.text "];".toList) .nil))))))))
  refine parts.congr fun t => ?_
  constructor
  · rintro ⟨target, _, isTarget, ⟨_, _, rfl, ⟨index, _, isIndex, ⟨_, _, rfl, ⟨source, _, isSource,
      ⟨_, _, rfl, ⟨key, _, isKey, ⟨_, _, rfl, rfl, rfl⟩, rfl⟩, rfl⟩, rfl⟩, rfl⟩, rfl⟩, rfl⟩, rfl⟩
    exact ⟨target, index, source, key, isTarget, isIndex, isSource, isKey, by simp⟩
  · rintro ⟨target, index, source, key, isTarget, isIndex, isSource, isKey, rfl⟩
    exact ⟨target, _, isTarget, ⟨_, _, rfl, ⟨index, _, isIndex, ⟨_, _, rfl, ⟨source, _, isSource,
      ⟨_, _, rfl, ⟨key, _, isKey, ⟨_, _, rfl, rfl, rfl⟩, rfl⟩, rfl⟩, rfl⟩, rfl⟩, rfl⟩, rfl⟩,
      by simp⟩

theorem rest_describes : ColourPicker.rest.Describes IsRest := by
  have parts := Describes.inOrder
    (.cons (span_describes (by decide : 50 ≤ 250))
      (.cons (slotAssignment_describes.repeated 3 (some 3) true)
      (.cons (span_describes (by decide : 0 ≤ 75)) (.cons three_describes
      (.cons (Describes.text "(false)".toList) (.cons (span_describes (by decide : 0 ≤ 75))
      (.cons (Describes.text ";\x7d;".toList) .nil)))))))
  refine parts.congr fun t => ?_
  constructor
  · rintro ⟨opening, _, isOpening, ⟨_, _, ⟨assignments, least, most, areAssignments, rfl⟩, ⟨gap, _, isGap,
      ⟨routine, _, isRoutine, ⟨_, _, rfl, ⟨ending, _, isEnding, ⟨_, _, rfl, rfl, rfl⟩, rfl⟩, rfl⟩,
      rfl⟩, rfl⟩, rfl⟩, rfl⟩
    have three : assignments.length = 3 := Nat.le_antisymm (most 3 rfl) least
    exact ⟨opening, assignments, gap, routine, ending, isOpening, three, areAssignments, isGap,
      isRoutine, isEnding, by simp⟩
  · rintro ⟨opening, assignments, gap, routine, ending, isOpening, three, areAssignments, isGap,
      isRoutine, isEnding, rfl⟩
    refine ⟨opening, _, isOpening, ⟨_, _, ⟨assignments, three.ge, ?_, areAssignments, rfl⟩, ⟨gap, _, isGap,
      ⟨routine, _, isRoutine, ⟨_, _, rfl, ⟨ending, _, isEnding, ⟨_, _, rfl, rfl, rfl⟩, rfl⟩, rfl⟩,
      rfl⟩, rfl⟩, rfl⟩, by simp⟩
    rintro most ⟨⟩
    exact three.le

/-- The signature stands for the shape. -/
theorem picker_describes : pickerTerm.Describes IsPicker :=
  (head_describes.group 1).seq (rest_describes.group 3)

theorem canReadNothing_picker : pickerTerm.canReadNothing = false := rfl

/-- What the search finds are texts of the shape from left to right, with none left out between
them. -/
theorem fragments_picker (text : Text) :
    Fragments IsPicker (Cursor.start text) (pickerTerm.allMatches text) :=
  picker_describes.fragments canReadNothing_picker

/-! ## When no picker is found -/

/-- The rule does not find a picker just if the helper follows none of the matches. -/
theorem notFound_iff (inputId : String) (b : Bindings) (text : Text) :
    (∃ e b', ((rule inputId).apply text).on b = (.error e, b') ∧ (rule inputId).NotFound e) ↔
      ∀ m ∈ pickerTerm.allMatches text, helperFollows m = false := by
  have compiled := compile_picker name b
  constructor
  · have others : Meets (apply inputId text) b (fun _ _ => True) fun e _ =>
        (rule inputId).NotFound e → (pickerTerm.allMatches text).filter helperFollows = [] := by
      refine .get (.lift_ok compiled (.lift (fun found _ => ?_) fun e failed => ?_))
      · refine .lift (fun key _ => .lift (fun inner _ => .lift (fun span _ => .bind (.get (.lift
          (fun code _ => .pure trivial) fun e failed => ?_))) ?_) ?_) ?_
        · obtain ⟨parameter, -, -, rfl⟩ := Template.unbound_of_render failed
          rintro ⟨pattern, never⟩
          exact PatchError.noConfusion never
        · rintro e failed ⟨pattern, rfl⟩
          exact PatchError.noConfusion (Match.captureSpan_error failed)
        · rintro e failed ⟨pattern, rfl⟩
          exact PatchError.noConfusion (Match.capture_error failed)
        · rintro e failed ⟨pattern, rfl⟩
          exact PatchError.noConfusion (Match.capture_error failed)
      · rintro ⟨pattern, rfl⟩
        rw [Locator.unique] at failed
        split at failed
        · assumption
        · simp only [reduceCtorEq] at failed
        · exact PatchError.noConfusion (Except.error.inj failed)
    rintro ⟨e, b', failed, notFound⟩ m member
    have none := others.failure e b' failed notFound
    exact Bool.eq_false_iff.2 (List.filter_eq_nil_iff.1 none m member)
  · intro rejected
    have none : (pickerTerm.allMatches text).filter helperFollows = [] :=
      List.filter_eq_nil_iff.2 fun m member => Bool.eq_false_iff.1 (rejected m member)
    refine ⟨.patternNotFound name picker.template.source, b, ?_, _, rfl⟩
    simp only [rule, apply, on_get_andThen, compiled, on_ok_andThen, Locator.unique, none]
    rfl

/-! ## What hides a picker -/

/-- A picker stands on a single line. -/
theorem IsPicker.inLine (isPicker : IsPicker t) : '\n' ∉ t := by
  obtain ⟨_, _, ⟨key, p, q, r, s, isKey, isP, isQ, isR, isS, rfl⟩, ⟨opening, assignments, gap,
    routine, ending, isOpening, -, areAssignments, isGap, isRoutine, isEnding, rfl⟩, rfl⟩ := isPicker
  have single : '\n' ∉ assignments.flatten := by
    intro member
    obtain ⟨u, isPart, member⟩ := List.mem_flatten.1 member
    obtain ⟨target, index, source, key, isTarget, isIndex, isSource, isKey, rfl⟩ :=
      areAssignments u isPart
    simp [isTarget.inLine, isIndex.inLine, isSource.inLine, isKey.inLine] at member
  simp [isKey.inLine, isP.inLine, isQ.inLine, isR.inLine, isS.inLine, isOpening.inLine, single,
    isGap.inLine, isRoutine.inLine, isEnding.inLine]

/-- The helper does not follow a match that ends before it only if something is between them. -/
theorem hides_of_rejected (whole : text = before ++ t ++ between ++ helper ++ rest)
    (isPicker : IsPicker t) (line : ∀ c ∈ between, inLine c = true)
    (near : between.length ≤ window) (member : m ∈ pickerTerm.allMatches text)
    (rejected : helperFollows m = false) (start : m.whole.start.before.length ≤ before.length)
    (stop : before.length < m.whole.stop.before.length) : Hides before t between m := by
  have fragments := fragments_picker text
  refine ⟨rejected, fragments.of_mem member, start, stop, ?_⟩
  by_cases late : (before ++ t ++ between).length < m.whole.stop.before.length
  · exact .inl late
  obtain ⟨isMatch, skipped, pass⟩ := Regex.allMatches_sound.of_mem member
  obtain ⟨part, inside⟩ := isMatch.passes
  have around : m.whole.stop.before.reverse ++ m.whole.stop.after = text :=
    (pass.trans inside).around
  have parts : m.whole.stop.before.reverse ++ m.whole.stop.after =
      before ++ (t ++ between) ++ (helper ++ rest) := by simp [around, whole]
  obtain ⟨kept, lost, split, front, behind⟩ :=
    Text.exists_split parts (by simpa using Nat.le_of_lt stop) (by simpa using late)
  have far : ¬ ((∀ c ∈ lost, inLine c = true) ∧ lost.length ≤ window) := by
    rintro ⟨single, short⟩
    have follows : helperFollows m = true := by
      have ends : ∀ c ∈ helper, inLine c = true := List.all_eq_true.1 (by decide)
      have onwards : m.whole.stop.after = lost ++ helper ++ rest := by
        rw [behind, List.append_assoc]
      refine helperFollows_of_append onwards ?_ ?_
      · exact List.forall_mem_append.2 ⟨single, ends⟩
      · simpa using short
    rw [rejected] at follows
    contradiction
  rcases List.append_eq_append_iff.1 split with ⟨more, rfl, rfl⟩ | ⟨inPicker, rfl, rfl⟩
  · refine absurd ⟨fun c inside => line c (List.mem_append_right more inside), ?_⟩ far
    rw [List.length_append] at near
    omega
  · have ends : m.whole.stop.before.length = (before ++ kept).length := by
      simpa using congrArg List.length front
    refine .inr ⟨kept, inPicker, rfl, ?_, ends, ?_⟩
    · rintro rfl
      exact far ⟨line, near⟩
    · by_cases short : (inPicker ++ between).length ≤ window
      · obtain ⟨c, inside, breaks⟩ : ∃ c ∈ inPicker, inLine c = false := by
          by_contra! single
          exact far ⟨List.forall_mem_append.2 ⟨fun c inside => by simpa using single c inside, line⟩, short⟩
        have noNewline : c ≠ '\n' := by
          rintro rfl
          exact isPicker.inLine (List.mem_append_right kept inside)
        obtain rfl : c = '\r' := by simpa [inLine, noNewline] using breaks
        exact .inl inside
      · exact .inr (Nat.lt_of_not_le short)

/-- Let a text of the shape of a picker stand before the helper, on its line and near enough. The
rule does not find a picker just if the helper follows none of the matches that the search yields,
and then one of these hides the text. -/
theorem hidden_iff (inputId : String) (b : Bindings)
    (whole : text = before ++ t ++ between ++ helper ++ rest) (isPicker : IsPicker t)
    (line : ∀ c ∈ between, inLine c = true) (near : between.length ≤ window) :
    ((∃ e b', ((rule inputId).apply text).on b = (.error e, b') ∧ (rule inputId).NotFound e) ↔
      ∀ m ∈ pickerTerm.allMatches text, helperFollows m = false) ∧
    ((∀ m ∈ pickerTerm.allMatches text, helperFollows m = false) →
      ∃ m ∈ pickerTerm.allMatches text, Hides before t between m) := by
  refine ⟨notFound_iff inputId b text, fun rejected => ?_⟩
  have behind : (Cursor.start text).after = before ++ t ++ (between ++ helper ++ rest) := by
    simpa [Cursor.start] using whole
  obtain ⟨m, member, start, stop⟩ := (fragments_picker text).covers behind isPicker
  simp only [Cursor.start, List.length_nil, Nat.zero_add] at start stop
  exact ⟨m, member, hides_of_rejected whole isPicker line near member (rejected m member) start stop⟩

/-! ## Samples -/

/-- A picker. -/
def samplePicker : Text :=
  [ "this[\"showColorPicker\"]=function(H0R,k0R,C0R,u0R)\x7b",
    "var Z8D=[arguments];Z8D[6]=E8TT;Z8D[2]=K8u(Z8D[0][0]);",
    "j8D[41]=Z8D[2][\"hue\"];j8D[26]=Z8D[2][\"brightness\"];j8D[38]=Z8D[2][\"saturation\"];",
    "M8u(false);\x7d;"].flatMap String.toList

/-- What stands between it and the result of the helper. -/
def sampleBetween : Text := "function K8u(a)\x7b".toList

/-- The picker with a helper that ends in some way. -/
def sampleText (ending : Text) : Text :=
  [] ++ samplePicker ++ sampleBetween ++ helper ++ ending

/-- An end of the helper. -/
def plainEnding : Text := ":a,brightness:a,saturation:a\x7d\x7d".toList

/-- An end of the helper that looks like the end of a picker. -/
def pickerEnding : Text := ":a\x7d;\x7d;".toList

/-- With the plain ending the picker is the match, and the helper follows it. With the other one the
match goes on to the end of the text. -/
theorem matches_sample {ending : Text} (known : ending = plainEnding ∨ ending = pickerEnding) :
    (pickerTerm.allMatches (sampleText ending)).map (fun m => (m.whole.text, helperFollows m)) =
      [if ending = plainEnding then (samplePicker, true) else (sampleText ending, false)] := by
  rw [Regex.allMatches_eq_evaluate]
  rcases known with rfl | rfl
  · decide +kernel
  · decide +kernel

theorem exists_match_sample : ∃ m ∈ pickerTerm.allMatches (sampleText plainEnding),
    m.whole.text = samplePicker ∧ helperFollows m = true := by
  have found : (samplePicker, true) ∈ (pickerTerm.allMatches (sampleText plainEnding)).map
      fun m => (m.whole.text, helperFollows m) := by
    rw [matches_sample (.inl rfl), if_pos rfl]
    exact List.mem_singleton_self _
  obtain ⟨m, member, same⟩ := List.mem_map.1 found
  obtain ⟨isText, follows⟩ := Prod.mk.inj same
  exact ⟨m, member, isText, follows⟩

theorem isPicker_sample : IsPicker samplePicker := by
  obtain ⟨m, member, isText, -⟩ := exists_match_sample
  exact isText ▸ (fragments_picker _).of_mem member

theorem inLine_sample : ∀ c ∈ sampleBetween, inLine c = true :=
  List.all_eq_true.1 (by decide)

theorem near_sample : sampleBetween.length ≤ window := by decide

/-- With the plain ending a picker is found. -/
theorem hidden_iff_sample :
    sampleText plainEnding = [] ++ samplePicker ++ sampleBetween ++ helper ++ plainEnding ∧
      IsPicker samplePicker ∧ (∀ c ∈ sampleBetween, inLine c = true) ∧
      sampleBetween.length ≤ window ∧
      ¬ ∃ e b', ((rule "kkleeColourInput").apply (sampleText plainEnding)).on
          (.seeded "ns".toList) = (.error e, b') ∧ (rule "kkleeColourInput").NotFound e := by
  have whole : sampleText plainEnding =
      [] ++ samplePicker ++ sampleBetween ++ helper ++ plainEnding := rfl
  refine ⟨whole, isPicker_sample, inLine_sample, near_sample, fun fails => ?_⟩
  obtain ⟨found, -⟩ := hidden_iff "kkleeColourInput" (.seeded "ns".toList) whole isPicker_sample
    inLine_sample near_sample
  obtain ⟨m, member, -, follows⟩ := exists_match_sample
  exact Bool.false_ne_true ((found.1 fails m member).symm.trans follows)

/-- With the other ending no picker is found. -/
theorem hidden_by_longer : ∃ t between rest e b', IsPicker t ∧
    (∀ c ∈ between, inLine c = true) ∧ between.length ≤ window ∧
    ((rule "kkleeColourInput").apply ([] ++ t ++ between ++ helper ++ rest)).on
      (.seeded "ns".toList) = (.error e, b') ∧ (rule "kkleeColourInput").NotFound e := by
  have rejected : ∀ m ∈ pickerTerm.allMatches (sampleText pickerEnding), helperFollows m = false := by
    intro m member
    have result := List.mem_map_of_mem (f := fun m => (m.whole.text, helperFollows m)) member
    rw [matches_sample (.inr rfl), if_neg (by decide)] at result
    exact (Prod.mk.inj (List.mem_singleton.1 result)).2
  obtain ⟨e, b', failed, notFound⟩ := (notFound_iff "kkleeColourInput" _ _).2 rejected
  exact ⟨samplePicker, sampleBetween, pickerEnding, e, b', isPicker_sample, inLine_sample,
    near_sample, failed, notFound⟩

end HookGraft.ColourPicker

import HookGraft.Proofs.Rule.ColourPicker
import HookGraft.Proofs.Rule.PickerSearch

/-!
# What becomes of the colour picker

The rule looks for the one match of its signature that the helper follows. If there is just one, it
comes apart into a head, which holds the key, and a body; the key is bound, and code is put around
the body, which itself stays as it is. If there is none or more than one, the rule fails and binds
nothing.

## Main definitions

* `ColourPicker.IsFollowed`: the helper begins on the line where a match ends, and soon enough
* `ColourPicker.opening`, `ColourPicker.closing`: the code before the body and behind it
* `ColourPicker.Recoloured`: a text with a picker, and what becomes of it

## Main results

* `ColourPicker.helperFollows_iff`: what the rule looks for behind a match
* `ColourPicker.apply_by_count`: what the rule does, by the number of matches that are followed
-/

namespace HookGraft.ColourPicker

open Discovery Regex

variable {text : Text} {inputId : String} {b : Bindings} {m : Match} {p q : Cursor} {marks : Marks}
  {ns key inner : Text}

/-! ## The helper behind a match -/

/-- The helper begins on the line where a match ends, and soon enough. -/
def IsFollowed (m : Match) : Prop :=
  ∃ between rest, m.whole.stop.after = between ++ helper ++ rest ∧ '\n' ∉ between ∧
    '\r' ∉ between ∧ between.length ≤ window

/-- The rule looks for the helper on the rest of the line, in a window that holds it if it begins soon
enough. -/
theorem helperFollows_iff : helperFollows m = true ↔ IsFollowed m := by
  constructor
  · intro follows
    obtain ⟨between, rest, -, behind, line, near⟩ := reach_of_helperFollows follows
    refine ⟨between, rest, behind, fun inside => ?_, fun inside => ?_, ?_⟩
    · simpa [inLine] using line _ (List.mem_append_left helper inside)
    · simpa [inLine] using line _ (List.mem_append_left helper inside)
    · simpa using near
  · rintro ⟨between, rest, behind, noNewline, noReturn, near⟩
    refine helperFollows_of_append behind (List.forall_mem_append.2 ⟨fun c inside => ?_, ?_⟩) ?_
    · have : c ≠ '\n' := fun same => noNewline (same ▸ inside)
      have : c ≠ '\r' := fun same => noReturn (same ▸ inside)
      simp [inLine, *]
    · exact List.all_eq_true.1 (by decide)
    · simpa using near

instance : DecidablePred IsFollowed := fun _ => decidable_of_iff _ helperFollows_iff

/-! ## The parts of a match -/

/-- The head of the method by its key and its parameters. -/
def headOf (key parameters : Text) : Text :=
  "this[".toList ++ key ++ "]=function(".toList ++ parameters ++ ")\x7b".toList

/-- A head is read from its key on: the only group in it is the one for the key. -/
theorem exists_key (h : head.Reads p marks q) : ∃ start stop key parameters,
    marks = [((2, .stop), stop), ((2, .start), start)] ∧ p.Passes "this[".toList start ∧
      start.Passes key stop ∧ IsSpan 10 25 key ∧
      stop.Passes ("]=function(".toList ++ parameters ++ ")\x7b".toList) q := by
  obtain ⟨start, first, second, ⟨before, rfl⟩, ⟨stop, third, fourth, ⟨inside, reads, rfl⟩, behind,
    rfl⟩, rfl⟩ := h
  obtain rfl := reads.marks_eq_nil rfl
  obtain rfl := behind.marks_eq_nil rfl
  obtain ⟨key, passKey⟩ := reads.passes
  obtain ⟨t, pass⟩ := behind.passes
  have parts := Describes.inOrder
    (.cons (Describes.text "]=function(".toList) (.cons three_describes
      (.cons (Describes.text [',']) (.cons three_describes
      (.cons (Describes.text [',']) (.cons three_describes
      (.cons (Describes.text [',']) (.cons three_describes
      (.cons (Describes.text ")\x7b".toList) .nil)))))))))
  obtain ⟨_, _, rfl, ⟨a, _, -, ⟨_, _, rfl, ⟨b, _, -, ⟨_, _, rfl, ⟨c, _, -, ⟨_, _, rfl, ⟨d, _, -,
    ⟨_, _, rfl, rfl, rfl⟩, rfl⟩, rfl⟩, rfl⟩, rfl⟩, rfl⟩, rfl⟩, rfl⟩, same⟩ :=
    (parts stop t q pass).1 ⟨[], behind⟩
  refine ⟨start, stop, key, a ++ [','] ++ b ++ [','] ++ c ++ [','] ++ d, rfl, before, passKey,
    ((span_describes (by decide)) start key stop passKey).1 ⟨[], reads⟩, ?_⟩
  have whole : t = "]=function(".toList ++ (a ++ [','] ++ b ++ [','] ++ c ++ [','] ++ d) ++
      ")\x7b".toList := by simp [same]
  exact whole ▸ pass

/-- A text around a match, which comes apart into a head with a key and a body. -/
structure IsDissected (text : Text) (m : Match) (before key parameters inner after : Text) :
    Prop where
  whole : text = before ++ headOf key parameters ++ inner ++ after
  fragment : m.whole.text = headOf key parameters ++ inner
  behind : m.whole.stop.after = after
  isHead : IsHead (headOf key parameters)
  isKey : IsSpan 10 25 key
  isRest : IsRest inner

/-- A match in a text comes apart: its second group reads the key, and its third group the body. -/
theorem exists_dissected (isMatch : pickerTerm.Matches m) {skipped : Text}
    (pass : (Cursor.start text).Passes skipped m.whole.start) :
    ∃ before key parameters inner after k e, IsDissected text m before key parameters inner after ∧
      m.group? 2 = some k ∧ k.text = key ∧ m.group? 3 = some e ∧ e.text = inner ∧
      e.start.before.reverse = before ++ headOf key parameters ∧ e.stop.after = after := by
  obtain ⟨marks, ⟨mid, _, _, ⟨inHead, first, rfl⟩, ⟨inRest, last, rfl⟩, rfl⟩, groups⟩ :=
    isMatch.reads
  obtain ⟨start, stop, key, parameters, rfl, ahead, inside, isKey, onward⟩ := exists_key first
  obtain rfl := last.marks_eq_nil rfl
  obtain ⟨inner, body⟩ := last.passes
  have method : m.whole.start.Passes (headOf key parameters) mid := by
    delta headOf
    simpa only [List.append_assoc] using (ahead.trans inside).trans onward
  have fragment : m.whole.text = headOf key parameters ++ inner := (method.trans body).extent_text
  have around := Extent.text_eq pass (method.trans body)
  have before : m.whole.start.before.reverse = skipped := by
    rw [pass.before]
    simp [Cursor.start]
  refine ⟨skipped, key, parameters, inner, m.whole.stop.after, ⟨start, stop⟩, ⟨mid, m.whole.stop⟩,
    ⟨?_, fragment, rfl, (head_describes _ _ _ method).1 ⟨_, first⟩, isKey,
      (rest_describes _ _ _ body).1 ⟨_, last⟩⟩,
    (groups 1 (by decide)).trans ?_, inside.extent_text, (groups 2 (by decide)).trans ?_,
    body.extent_text, ?_, rfl⟩
  · simpa [before, fragment] using around
  · exact extent?_group 2 start stop [((1, .start), m.whole.start)]
  · exact extent?_group 3 mid m.whole.stop _
  · rw [method.before, List.reverse_append, List.reverse_reverse, before]

/-! ## The code around the body -/

/-- The code before the body: the arguments are remembered, and the colour input is set. -/
def opening (ns input : Text) : Text :=
  ns ++ ".showColourPickerArguments=[...arguments];\n".toList ++
    "document.getElementById(\"".toList ++ input ++ "\")".toList ++
    ".value=\"#\"+arguments[0].toString(16).padStart(6,\"0\");".toList

/-- The code behind the body: the method is read by its key again, to be called with another colour. -/
def closing (ns key : Text) : Text :=
  ";let Kscpa=this[".toList ++ key ++ "];".toList ++ ns ++
    ".setColourPickerColour=function(c)\x7bKscpa(c,...".toList ++ ns ++
    ".showColourPickerArguments.slice(1));\x7d;\n".toList

/-- The body is put between the two, whatever it holds. -/
theorem render_body (bound : b.get? Bindings.namespaceName = some ns) (key inner input : Text) :
    body.render (((b.bind Identifier.colourPickerKey key).bind Identifier.fragment inner).bind
      colourInput input) .raw = .ok (opening ns input ++ inner ++ closing ns key) := by
  have values : ∀ name ∈ body.parameters, (((b.bind Identifier.colourPickerKey key).bind
      Identifier.fragment inner).bind colourInput input).get? name = some
        (if name = "ns" then ns else if name = colourInput then input
          else if name = Identifier.fragment then inner else key) := by
    rw [parameters_body]
    simp [Bindings.get?_bind, colourInput, Identifier.fragment, Identifier.colourPickerKey]
    exact bound
  rw [Template.render_eq_fill _ values]
  delta opening closing
  simp only [body, Template.fill, Segment.fill, Embedding.apply, colourInput, Identifier.fragment,
    List.flatMap_cons, List.flatMap_nil, List.append_assoc, List.append_nil, String.reduceEq, reduceIte]

/-! ## The rule -/

/-- The matches of a text that are followed. -/
def followed (text : Text) : List Match := (pickerTerm.allMatches text).filter (IsFollowed ·)

theorem filter_helperFollows (text : Text) :
    (pickerTerm.allMatches text).filter helperFollows = followed text := by
  have same : helperFollows = fun m => decide (IsFollowed m) := by
    funext m
    exact Bool.eq_iff_iff.2 (helperFollows_iff.trans decide_eq_true_iff.symm)
  rw [followed, same]

theorem apply_of_none (inputId : String) (b : Bindings) (none : followed text = []) :
    (apply inputId text).on b = (.error (.patternNotFound name picker.template.source), b) := by
  rw [apply, on_get_andThen, compile_picker, on_ok_andThen, Locator.unique, filter_helperFollows,
    none]
  rfl

theorem apply_of_several (inputId : String) (b : Bindings) (several : 1 < (followed text).length) :
    (apply inputId text).on b =
      (.error (.unexpectedShape name "candidate fragments" 1 (followed text).length), b) := by
  rw [apply, on_get_andThen, compile_picker, on_ok_andThen, Locator.unique, filter_helperFollows]
  generalize followed text = found at several
  rcases found with _ | ⟨m, _ | ⟨m', rest⟩⟩
  · contradiction
  · exact absurd several (Nat.lt_irrefl 1)
  · rfl

/-- If one match is followed, its key is bound and the code is put around its body. -/
theorem apply_of_single (inputId : String) (bound : b.get? Bindings.namespaceName = some ns)
    (single : followed text = [m]) : ∃ before key parameters inner after,
    IsDissected text m before key parameters inner after ∧
      (apply inputId text).on b = (.ok {
        text := before ++ headOf key parameters ++ opening ns inputId.toList ++ inner ++
          closing ns key ++ after
        sites := 1 }, b.bind Identifier.colourPickerKey key) := by
  have member : m ∈ followed text := single ▸ List.mem_singleton_self m
  obtain ⟨isMatch, skipped, pass⟩ := Regex.allMatches_sound.of_mem (List.mem_of_mem_filter member)
  obtain ⟨before, key, parameters, inner, after, k, e, dissected, group, rfl, group', rfl, ahead,
    behind⟩ := exists_dissected isMatch pass
  refine ⟨before, _, parameters, _, after, dissected, ?_⟩
  rw [apply, on_get_andThen, compile_picker, on_ok_andThen, Locator.unique, filter_helperFollows,
    single, on_ok_andThen, Match.capture_eq_ok name group, on_ok_andThen,
    Match.capture_eq_ok name group', on_ok_andThen, Match.captureSpan_eq_ok name group',
    on_ok_andThen, on_bind_name_andThen, on_get_andThen]
  simp only [render_body bound, on_ok_andThen, on_pure, Extent.replace, ahead, behind,
    List.append_assoc]

/-- What the rule does, by the number of matches that are followed: it fails if there is none or more
than one, and else it binds the key and puts code around the body. -/
theorem apply_by_count (inputId : String) (bound : b.get? Bindings.namespaceName = some ns)
    (text : Text) :
    picker.compile name b = .ok ⟨name, picker.template.source, pickerTerm⟩ ∧
    Fragments IsPicker (Cursor.start text) (pickerTerm.allMatches text) ∧
    ((followed text).length = 0 → ((rule inputId).apply text).on b =
      (.error (.patternNotFound name picker.template.source), b)) ∧
    (1 < (followed text).length → ((rule inputId).apply text).on b =
      (.error (.unexpectedShape name "candidate fragments" 1 (followed text).length), b)) ∧
    ((followed text).length = 1 → ∃ m before key parameters inner after, followed text = [m] ∧
      IsDissected text m before key parameters inner after ∧
      ((rule inputId).apply text).on b = (.ok {
        text := before ++ headOf key parameters ++ opening ns inputId.toList ++ inner ++
          closing ns key ++ after
        sites := 1 }, b.bind Identifier.colourPickerKey key)) := by
  refine ⟨compile_picker name b, fragments_picker text,
    fun none => apply_of_none inputId b (List.length_eq_zero_iff.1 none),
    apply_of_several inputId b, fun one => ?_⟩
  obtain ⟨m, single⟩ := List.length_eq_one_iff.1 one
  obtain ⟨before, key, parameters, inner, after, done⟩ := apply_of_single inputId bound single
  exact ⟨m, before, key, parameters, inner, after, single, done⟩

theorem length_followed_sample : (followed (sampleText plainEnding)).length = 1 := by
  have found := matches_sample (.inl rfl : plainEnding = plainEnding ∨ _)
  rw [if_pos rfl] at found
  have accepted := congrArg (List.filter Prod.snd) found
  rw [List.filter_map] at accepted
  rw [← filter_helperFollows, ← List.length_map fun m => (m.whole.text, helperFollows m)]
  exact congrArg List.length accepted

/-- The picker of the sample is the only match that is followed, and code is put around its body. -/
theorem apply_by_count_sample :
    (Bindings.seeded "ns".toList).get? Bindings.namespaceName = some "ns".toList ∧
      ∃ m before key parameters inner after, followed (sampleText plainEnding) = [m] ∧
        IsDissected (sampleText plainEnding) m before key parameters inner after ∧
        ((rule "kkleeColourInput").apply (sampleText plainEnding)).on (.seeded "ns".toList) = (.ok {
          text := before ++ headOf key parameters ++
            opening "ns".toList "kkleeColourInput".toList ++ inner ++ closing "ns".toList key ++ after
          sites := 1 }, (Bindings.seeded "ns".toList).bind Identifier.colourPickerKey key) := by
  have bound : (Bindings.seeded "ns".toList).get? Bindings.namespaceName = some "ns".toList :=
    Bindings.get?_bind_self
  obtain ⟨-, -, -, -, one⟩ := apply_by_count "kkleeColourInput" bound (sampleText plainEnding)
  exact ⟨bound, one length_followed_sample⟩

end HookGraft.ColourPicker

import HookGraft.Proofs.Pattern.InPlace
import HookGraft.Proofs.Regex.Evaluation
import HookGraft.Proofs.Rule.ChatListener

/-!
# Which call the chat listener rule takes out

The rule takes out what its signature reads behind the context: a call with a key, an argument and a
handler. The signature counts the characters in these places but lets them be any of a line, and it
reads as many as it can. If none of them is a semicolon, then just one statement is taken out. The
rule does not check this: a short statement behind the call is taken for the end of its argument.

## Main definitions

* `ChatListener.Call`: a call by its open places
* `ChatListener.IsStatement`: a text that ends with its only semicolon
* `ChatListener.Removes`: a text and what is left when a call is taken out

## Main results

* `ChatListener.removes_single_iff`: when one statement is taken out
* `ChatListener.removes_neighbour`: the statement behind the call may be taken out, too
-/

namespace HookGraft.ChatListener

open Discovery Regex

/-! ## The shape -/

/-- What has to stand before the call: the beginning of a method, which clears a flag. -/
def IsContext (t : Text) : Prop :=
  ∃ method opening flag gap, IsSpan 10 20 method ∧ IsSpan 20 40 opening ∧ IsSpan 10 20 flag ∧
    IsSpan 0 11 gap ∧
    t = ["this[".toList, method, "]=function()\x7b".toList, opening, "this[".toList, flag,
      "]=false;".toList, gap].flatten

/-- What stands in the open places of the call. -/
structure Call where
  key : Text
  argument : Text
  handler : Text
  isKey : IsSpan 10 20 key
  isArgument : IsSpan 10 20 argument
  isHandler : IsSpan 3 4 handler

/-- The call up to its last parenthesis. -/
def Call.opening (c : Call) : Text :=
  ["$(document)[".toList, c.key, "](".toList, c.argument, [','], c.handler].flatten

/-- The call. -/
def Call.text (c : Call) : Text := c.opening ++ ");".toList

/-- The open places. -/
def Call.gaps (c : Call) : List Text := [c.key, c.argument, c.handler]

theorem before_describes : before.Describes IsContext := by
  have parts := Describes.inOrder
    (.cons (Describes.text "this[".toList) (.cons (span_describes (by decide : 10 ≤ 20))
      (.cons (Describes.text "]=function()\x7b".toList) (.cons (span_describes (by decide : 20 ≤ 40))
      (.cons (Describes.text "this[".toList) (.cons (span_describes (by decide : 10 ≤ 20))
      (.cons (Describes.text "]=false;".toList)
      (.cons (span_describes (by decide : 0 ≤ 11)) .nil))))))))
  refine parts.congr fun t => ?_
  constructor
  · rintro ⟨_, _, rfl, ⟨method, _, isMethod, ⟨_, _, rfl, ⟨opening, _, isOpening, ⟨_, _, rfl, ⟨flag, _,
      isFlag, ⟨_, _, rfl, ⟨gap, _, isGap, rfl, rfl⟩, rfl⟩, rfl⟩, rfl⟩, rfl⟩, rfl⟩, rfl⟩, rfl⟩
    exact ⟨method, opening, flag, gap, isMethod, isOpening, isFlag, isGap, by simp⟩
  · rintro ⟨method, opening, flag, gap, isMethod, isOpening, isFlag, isGap, rfl⟩
    exact ⟨_, _, rfl, ⟨method, _, isMethod, ⟨_, _, rfl, ⟨opening, _, isOpening, ⟨_, _, rfl, ⟨flag, _,
      isFlag, ⟨_, _, rfl, ⟨gap, _, isGap, rfl, rfl⟩, rfl⟩, rfl⟩, rfl⟩, rfl⟩, rfl⟩, rfl⟩, by simp⟩

theorem call_describes : call.Describes fun t => ∃ c : Call, t = c.text := by
  have parts := Describes.inOrder
    (.cons (Describes.text "$(document)[".toList) (.cons (span_describes (by decide : 10 ≤ 20))
      (.cons (Describes.text "](".toList) (.cons (span_describes (by decide : 10 ≤ 20))
      (.cons (Describes.text [',']) (.cons (span_describes (by decide : 3 ≤ 4))
      (.cons (Describes.text ");".toList) .nil)))))))
  refine parts.congr fun t => ?_
  constructor
  · rintro ⟨_, _, rfl, ⟨key, _, isKey, ⟨_, _, rfl, ⟨argument, _, isArgument, ⟨_, _, rfl, ⟨handler, _,
      isHandler, ⟨_, _, rfl, rfl, rfl⟩, rfl⟩, rfl⟩, rfl⟩, rfl⟩, rfl⟩, rfl⟩
    refine ⟨⟨key, argument, handler, isKey, isArgument, isHandler⟩, ?_⟩
    delta Call.text Call.opening
    simp
  · rintro ⟨c, rfl⟩
    refine ⟨_, _, rfl, ⟨c.key, _, c.isKey, ⟨_, _, rfl, ⟨c.argument, _, c.isArgument, ⟨_, _, rfl,
      ⟨c.handler, _, c.isHandler, ⟨_, _, rfl, rfl, rfl⟩, rfl⟩, rfl⟩, rfl⟩, rfl⟩, rfl⟩, ?_⟩
    delta Call.text Call.opening
    simp

/-- The signature stands for a context with a call behind it. -/
theorem unbinding_describes : unbindingTerm.Describes fun t =>
    ∃ s u, IsContext s ∧ (∃ c : Call, u = c.text) ∧ t = s ++ u :=
  (before_describes.group 1).seq call_describes

/-! ## Statements -/

/-- A statement: it ends with a semicolon, and holds no other. -/
def IsStatement (t : Text) : Prop := ∃ inner, t = inner ++ [';'] ∧ ';' ∉ inner

/-- A text that holds a semicolon begins with a statement. -/
theorem exists_statement {t : Text} (h : ';' ∈ t) :
    ∃ statement rest, t = statement ++ rest ∧ IsStatement statement := by
  obtain ⟨inner, rest, rfl, free⟩ := List.eq_append_cons_of_mem h
  exact ⟨inner ++ [';'], rest, by simp, inner, rfl, free⟩

/-- A statement holds one semicolon. -/
theorem IsStatement.count_eq {t : Text} (h : IsStatement t) : List.count ';' t = 1 := by
  obtain ⟨inner, rfl, free⟩ := h
  rw [List.count_append, List.count_eq_zero_of_not_mem free]
  rfl

/-- A call is a statement just if no semicolon stands in its open places. -/
theorem Call.isStatement_iff (c : Call) : IsStatement c.text ↔ ∀ gap ∈ c.gaps, ';' ∉ gap := by
  have split : c.text = c.opening ++ [')'] ++ [';'] := by
    rw [List.append_assoc]
    rfl
  have single : IsStatement c.text ↔ ';' ∉ c.opening ++ [')'] := by
    rw [split]
    exact ⟨fun ⟨_, same, free⟩ => List.append_cancel_right same ▸ free, fun free => ⟨_, rfl, free⟩⟩
  rw [single]
  delta Call.opening
  simp [gaps]

/-! ## What is taken out -/

variable {text skipped : Text} {m : Match} {b b' : Bindings} {o : RuleOutcome}

/-- A call is taken out of a text. It stands behind the leftmost context that has a call behind it. -/
structure Removes (text : Text) (o : RuleOutcome) (before kept : Text) (c : Call) (after : Text) :
    Prop where
  isContext : IsContext kept
  whole : text = before ++ kept ++ c.text ++ after
  leftmost : ∀ b s d a, text = b ++ s ++ Call.text d ++ a → IsContext s → before.length ≤ b.length
  outcome : o = { text := before ++ kept ++ after, sites := 1 }

/-- A match comes apart into a context and a call, and the call is taken out. -/
theorem exists_call (isMatch : unbindingTerm.Matches m)
    (pass : (Cursor.start text).Passes skipped m.whole.start) :
    ∃ kept after, ∃ c : Call, IsContext kept ∧ text = skipped ++ kept ++ c.text ++ after ∧
      m.keepOnly name 1 = .ok (skipped ++ kept ++ after) := by
  obtain ⟨mid, kept, removed, first, inside, last, behind, whole, replaced⟩ := exists_kept isMatch pass
  obtain ⟨c, rfl⟩ := (call_describes _ _ _ behind).1 ⟨_, last⟩
  exact ⟨kept, m.whole.stop.after, c, (before_describes _ _ _ inside).1 ⟨_, first⟩, whole, replaced⟩

/-- If the rule succeeds, it takes out the call behind the leftmost context that has a call behind it,
and binds nothing. The call is a single statement just if no semicolon stands in its open places, and
else it is a statement together with some more text. -/
theorem removes_single_iff (done : (rule.apply text).on b = (.ok o, b')) :
    ∃ before kept c after, Removes text o before kept c after ∧ b' = b ∧
      "$(document)[".toList <+: c.text ∧ ");".toList <:+ c.text ∧
      (IsStatement c.text ↔ ∀ gap ∈ c.gaps, ';' ∉ gap) ∧
      (¬ IsStatement c.text → ∃ statement lost, c.text = statement ++ lost ∧
        IsStatement statement ∧ lost ≠ []) := by
  have run : (apply text).on b = (.ok o, b') := done
  rw [apply, on_get_andThen, compile_unbinding, on_ok_andThen, on_lift_andThen_eq_ok] at run
  obtain ⟨m, search, run⟩ := run
  obtain ⟨-, -, before, pass, least⟩ := unbinding_describes.first? (Locator.first?_of_first search)
  obtain ⟨kept, after, c, isContext, whole, replaced⟩ :=
    exists_call (Locator.first_sound search).1 pass
  rw [replaced, on_ok_andThen, on_pure] at run
  obtain ⟨same, rfl⟩ := Prod.mk.inj run
  obtain rfl := Except.ok.inj same
  refine ⟨before, kept, c, after, ⟨isContext, whole, fun b s d a split isContext' => ?_, rfl⟩, rfl,
    ?_, ?_, c.isStatement_iff, fun more => ?_⟩
  · exact least b (s ++ d.text) a (by simpa [Cursor.start] using split) ⟨s, _, isContext', ⟨d, rfl⟩, rfl⟩
  · exact List.prefix_append _ _
  · exact List.suffix_append _ _
  · obtain ⟨statement, lost, split, isStatement⟩ :=
      exists_statement (List.mem_append_right c.opening (by decide : ';' ∈ ");".toList))
    refine ⟨statement, lost, split, isStatement, ?_⟩
    rintro rfl
    exact more (by rwa [Call.text, split, List.append_nil])

/-! ## A sample -/

/-- A method that hides the lobby and unbinds the key handler of the chat, with some statements
behind the call. -/
def sample (argument rest : Text) : Text :=
  [ "this[\"hideLobby\"]=function()\x7bU7x[3][\"style\"][\"display\"]=\"none\";",
    "this[\"chatActive\"]=false;$(document)[X1y[0][45]]("].flatMap String.toList ++ argument ++
    ",k2u);".toList ++ rest

/-- What is left of it. -/
def sampleLeft (rest : Text) : Text :=
  [ "this[\"hideLobby\"]=function()\x7bU7x[3][\"style\"][\"display\"]=\"none\";",
    "this[\"chatActive\"]=false;"].flatMap String.toList ++ rest

/-- The statement behind the call is taken out if the argument is short enough. -/
theorem apply_sample {argument rest left : Text}
    (known : argument = "\"keydown.chat\"".toList ∧ rest = "f(1,abc);\x7d".toList ∧ left = rest ∨
      argument = "X1y[0][46]".toList ∧ rest = "f(1,abc);\x7d".toList ∧ left = ['\x7d']) :
    ∃ o b', (rule.apply (sample argument rest)).on (.seeded ['w']) = (.ok o, b') ∧
      o.text = sampleLeft left := by
  have done : ((rule.apply (sample argument rest)).on (.seeded ['w'])).1.toOption.map (·.text) =
      some (sampleLeft left) := by
    simp only [rule, apply, compile_unbinding, Locator.first, Regex.first?_eq_evaluate]
    rcases known with ⟨rfl, rfl, rfl⟩ | ⟨rfl, rfl, rfl⟩
    · decide +kernel
    · decide +kernel
  cases run : (rule.apply (sample argument rest)).on (.seeded ['w']) with
  | mk result b' =>
    rw [run] at done
    cases result with
    | error e => contradiction
    | ok o => exact ⟨o, b', rfl, Option.some.inj done⟩

/-- One call is taken out of the sample with the longer argument. -/
theorem removes_single_sample : ∃ o b',
    (rule.apply (sample "\"keydown.chat\"".toList "f(1,abc);\x7d".toList)).on (.seeded ['w']) =
      (.ok o, b') ∧ o.text = sampleLeft "f(1,abc);\x7d".toList ∧
    ∃ before kept c after,
      Removes (sample "\"keydown.chat\"".toList "f(1,abc);\x7d".toList) o before kept c after ∧
      b' = .seeded ['w'] ∧
      "$(document)[".toList <+: c.text ∧ ");".toList <:+ c.text ∧
      (IsStatement c.text ↔ ∀ gap ∈ c.gaps, ';' ∉ gap) ∧
      (¬ IsStatement c.text → ∃ statement lost, c.text = statement ++ lost ∧
        IsStatement statement ∧ lost ≠ []) := by
  obtain ⟨o, b', done, left⟩ := apply_sample (.inl ⟨rfl, rfl, rfl⟩)
  exact ⟨o, b', done, left, removes_single_iff done⟩

/-- With the shorter argument the statement behind the call is taken out together with it: whatever
has been taken out is no single statement. -/
theorem removes_neighbour : ∃ o b',
    (rule.apply (sample "X1y[0][46]".toList "f(1,abc);\x7d".toList)).on (.seeded ['w']) =
      (.ok o, b') ∧ o.text = sampleLeft ['\x7d'] ∧
    ∀ before kept removed after,
      sample "X1y[0][46]".toList "f(1,abc);\x7d".toList = before ++ kept ++ removed ++ after →
      o.text = before ++ kept ++ after → ¬ IsStatement removed := by
  obtain ⟨o, b', done, left⟩ := apply_sample (.inr ⟨rfl, rfl, rfl⟩)
  refine ⟨o, b', done, left, fun before kept removed after whole out isStatement => ?_⟩
  have all : List.count ';' (sample "X1y[0][46]".toList "f(1,abc);\x7d".toList) = 4 := by decide
  have some : List.count ';' (sampleLeft ['\x7d']) = 2 := by decide
  have one := isStatement.count_eq
  rw [whole] at all
  rw [← left, out] at some
  simp only [List.count_append] at all some
  omega

end HookGraft.ChatListener

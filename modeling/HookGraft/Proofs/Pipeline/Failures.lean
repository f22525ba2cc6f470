import HookGraft.Proofs.Pipeline.Runs

/-!
# How the standard pipeline fails

If nothing is wrong with the settings, the standard pipeline fails only on a text that is patched
already, on a text that has another shape than the rules know, and where a pattern is too large.

## Main definitions

* `MayRaise`: the failures that each standard rule may end with

## Main results

* `Rule.IsStandard.parses`: the templates of the standard rules are written without a fault
* `Settings.Valid.mayRaise`: why a standard rule fails that lacks nothing
* `ResetState.raises_each`: one of the rules fails in each of three ways
* `Pipeline.standard_failures`: why the standard pipeline fails
-/

namespace HookGraft

/-! ## The sources of the templates -/

theorem MapObject.parse_anchor (key : String) :
    (Template.parse (MapObject.anchor key).template.source).isOk = true := by
  have source : (MapObject.anchor key).template.source =
      escape key.toList ++ ":[a-zA-Z0-9]{3}\\[\\d+\\]".toList :=
    congrArg (escape key.toList ++ ·) (List.append_nil _)
  rw [source, Template.parse, Template.parseFrom_escape]
  rfl

/-- The templates of the standard rules are written without a fault. -/
theorem Rule.IsStandard.parses {rule : Rule} (standard : rule.IsStandard) :
    ∀ t ∈ rule.templates, (Template.parse t.source).isOk = true := by
  cases standard with
  | mapObject key =>
    refine List.forall_mem_cons.2 ⟨MapObject.parse_anchor key, ?_⟩
    show ∀ t ∈ [MapObject.assignment.template, MapObject.copied],
      (Template.parse t.source).isOk = true
    decide
  | mapEncoder => decide
  | resetState made =>
    obtain ⟨-, -, rfl⟩ := ResetState.rule?_eq_ok made
    show ∀ t ∈ [ResetState.routine.template, HookCode.updateWrapper, HookCode.selectionAccessors],
      (Template.parse t.source).isOk = true
    decide +kernel
  | undoHistory => decide
  | chatListener => decide
  | colourPicker inputId =>
    show ∀ t ∈ [ColourPicker.picker.template, ColourPicker.body],
      (Template.parse t.source).isOk = true
    decide +kernel

/-! ## Failures of the rules -/

/-- The failures that each standard rule may end with, by the name of the rule. -/
inductive MayRaise : String → PatchError → Prop where
  /-- every rule may look for a pattern in vain -/
  | notFound (name : String) (pattern : Text) : MayRaise name (.patternNotFound name pattern)
  /-- the routines that two of the rules look for may not come apart -/
  | malformed {name : String} (routine : name = ResetState.name ∨ name = UndoHistory.name)
    (defect : FragmentDefect) : MayRaise name (.malformedFragment name defect)
  /-- the reset routine may have too few statements of some kind, or too many -/
  | misshapen (what : String) (expected actual : Nat) :
    MayRaise ResetState.name (.unexpectedShape ResetState.name what expected actual)
  /-- there may be several colour pickers -/
  | ambiguous (what : String) (actual : Nat) :
    MayRaise ColourPicker.name (.unexpectedShape ColourPicker.name what 1 actual)

variable {e : PatchError}

theorem Rule.NotFound.mayRaise {rule : Rule} (h : rule.NotFound e) : MayRaise rule.name e := by
  obtain ⟨pattern, rfl⟩ := h
  exact .notFound rule.name pattern

theorem MayRaise.isFormatDrift {name : String} (h : MayRaise name e) : e.isFormatDrift = true := by
  cases h <;> rfl

/-- The rules whose patterns hold texts of the settings or of the program, and may be too large. -/
def sizedRules : List String := [MapObject.name, MapEncoder.name, UndoHistory.name]

/-- A rule of the standard pipeline that lacks nothing fails only in its own way, or because a pattern
is too large. -/
theorem Settings.Valid.mayRaise {s : Settings} (valid : s.Valid) {rule : Rule}
    (member : rule ∈ s.pipeline.rules) {text : Text} {b b' : Bindings} (ready : rule.Ready b)
    (failed : (rule.apply text).on b = (.error e, b')) :
    MayRaise rule.name e ∨ rule.name ∈ sizedRules ∧ rule.Oversized e := by
  have lacksNothing := ready.not_unbound (e := e)
  rcases List.mem_cons.1 member with rfl | member
  · rcases ((MapObject.apply_meets s.anchorKey text b).failure e b' failed).2 with
      (drift | ⟨noIdentifier, -⟩) | large | unbound
    · exact .inl drift.mayRaise
    · rw [valid.key] at noIdentifier
      contradiction
    · exact .inr ⟨.head _, large⟩
    · exact absurd unbound lacksNothing
  rcases List.mem_cons.1 member with rfl | member
  · rcases ((MapEncoder.apply_meets text b).failure e b' failed).2 with drift | large | unbound
    · exact .inl drift.mayRaise
    · exact .inr ⟨.tail _ (.head _), large⟩
    · exact absurd unbound lacksNothing
  rcases List.mem_cons.1 member with rfl | member
  · rcases ((ResetState.apply_meets valid.three valid.six text b).failure e b' failed).2 with
      drift | ⟨defect, rfl⟩ | ⟨what, expected, actual, rfl⟩ | unbound
    · exact .inl drift.mayRaise
    · exact .inl (.malformed (.inl rfl) defect)
    · exact .inl (.misshapen what expected actual)
    · exact absurd unbound lacksNothing
  rcases List.mem_cons.1 member with rfl | member
  · rcases ((UndoHistory.apply_meets text b).failure e b' failed).2 with
      drift | ⟨defect, rfl⟩ | large | unbound
    · exact .inl drift.mayRaise
    · exact .inl (.malformed (.inr rfl) defect)
    · exact .inr ⟨.tail _ (.tail _ (.head _)), large⟩
    · exact absurd unbound lacksNothing
  rcases List.mem_cons.1 member with rfl | member
  · exact .inl ((ChatListener.apply_meets text b).failure e b' failed).2.mayRaise
  obtain rfl := List.mem_singleton.1 member
  rcases ((ColourPicker.apply_meets s.colourInputId text b).failure e b' failed).2 with
    drift | ⟨what, actual, rfl⟩ | unbound
  · exact .inl drift.mayRaise
  · exact .inl (.ambiguous what actual)
  · exact absurd unbound lacksNothing

/-! ## Three ways to fail -/

namespace ResetState

open Discovery

/-- What the rule does before it binds anything. -/
def takeApart (text : Text) (b : Bindings) : Except PatchError (Text × ResetShape) := do
  let found ← (← routine.compile name b).first text
  let routine ← routineName name found.whole.text
  let shape ← ResetShape.ofFragment name found.whole.text
  return (routine, shape)

variable {text : Text} {b : Bindings}

theorem on_of_takeApart (failed : takeApart text b = .error e) (selection update : List String) :
    ((ruleFor selection update).apply text).on b = (.error e, b) := by
  show (apply selection update text).on b = _
  unfold apply
  rw [on_andThen, on_get]
  simp only [takeApart, Except.bind_eq_error] at failed
  rcases failed with compile | ⟨l, compiled, search | ⟨found, searched, noName | ⟨routine, named,
    noShape | ⟨shape, -, never⟩⟩⟩⟩
  · simp [on_andThen, compile]
  · simp [on_andThen, compiled, search]
  · simp [on_andThen, compiled, searched, noName]
  · simp [on_andThen, compiled, searched, named, noShape]
  · exact nomatch never

/-- Nothing is found where there is nothing. -/
theorem takeApart_nil :
    ∃ pattern, takeApart [] .empty = .error (.patternNotFound name pattern) := by
  have vain : (Locator.first ⟨name, routine.template.source, Regex.inOrder routineParts⟩
      []).isOk = false := by
    decide +kernel
  have compiled := compile_routine name .empty
  cases search : Locator.first ⟨name, routine.template.source, Regex.inOrder routineParts⟩ [] with
  | ok found =>
    rw [search] at vain
    exact nomatch vain
  | error e =>
    obtain rfl := Locator.first_error search
    exact ⟨_, Except.bind_eq_error.2 (.inr ⟨_, compiled, Except.bind_eq_error.2 (.inl search)⟩)⟩

/-- A routine with six statements, up to what should end the last one. -/
def shortRoutine : Text :=
  ["function abc()\x7b", "abc[1]=-1;abc[1]=-1;", "abc(true);abc();abc();a"].flatMap String.toList

/-- Whether taking a routine apart fails in one way. -/
def failsWith (e : PatchError) : Except PatchError (Text × ResetShape) → Bool
  | .error e' => e' == e
  | .ok _ => false

theorem eq_error_of_failsWith {x : Except PatchError (Text × ResetShape)}
    (h : failsWith e x = true) : x = .error e := by
  cases x with
  | ok => contradiction
  | error e' => exact congrArg _ (by simpa [failsWith] using h)

/-- A routine whose last statement does not end is malformed, and one with six statements has the
wrong shape. -/
theorem takeApart_shortRoutine :
    takeApart (shortRoutine ++ ['\x7d']) .empty =
      .error (.malformedFragment name .noClosingBrace) ∧
    takeApart (shortRoutine ++ [';', '\x7d']) .empty =
      .error (.unexpectedShape name "statements" 9 6) := by
  suffices general : ∀ unended ended, unended = shortRoutine ++ ['\x7d'] →
      ended = shortRoutine ++ [';', '\x7d'] →
      failsWith (.malformedFragment name .noClosingBrace) (takeApart unended .empty) = true ∧
        failsWith (.unexpectedShape name "statements" 9 6) (takeApart ended .empty) = true by
    obtain ⟨malformed, misshapen⟩ := general _ _ rfl rfl
    exact ⟨eq_error_of_failsWith malformed, eq_error_of_failsWith misshapen⟩
  intro unended ended isUnended isEnded
  simp only [takeApart, compile_routine, Locator.first, Regex.first?_eq_evaluate]
  subst isUnended isEnded
  decide +kernel

/-- The rule may look in vain, and it may find a routine that does not come apart, or one that comes
apart into too few statements. -/
theorem raises_each (selection update : List String) :
    (∃ text b b' pattern, ((ruleFor selection update).apply text).on b =
      (.error (.patternNotFound name pattern), b')) ∧
    (∃ text b b' defect, ((ruleFor selection update).apply text).on b =
      (.error (.malformedFragment name defect), b')) ∧
    ∃ text b b' what expected actual, ((ruleFor selection update).apply text).on b =
      (.error (.unexpectedShape name what expected actual), b') := by
  obtain ⟨pattern, vain⟩ := takeApart_nil
  obtain ⟨malformed, misshapen⟩ := takeApart_shortRoutine
  exact ⟨⟨_, _, _, pattern, on_of_takeApart vain selection update⟩,
    ⟨_, _, _, _, on_of_takeApart malformed selection update⟩,
    ⟨_, _, _, _, _, _, on_of_takeApart misshapen selection update⟩⟩

end ResetState

/-! ## Failures of the pipeline -/

/-- The standard pipeline can be made if nothing is wrong with the settings, and no text makes it
fail but one that is patched already, one that has another shape than one of the rules knows, and one
for which a pattern of a rule is well-formed but too large. -/
theorem Pipeline.standard_failures (s : Settings) :
    (∀ e, Pipeline.standard s = .error e ↔ s.validate = .error e) ∧
    (s.validate = .ok () → ∃ p, Pipeline.standard s = .ok p ∧
      p.rules.map Rule.name = ["map-object", "map-encoder", "reset-state", "undo-history",
        "chat-listener", "colour-picker"] ∧
      (∀ rule ∈ p.rules, ∀ t ∈ rule.templates, (Template.parse t.source).isOk = true) ∧
      (∃ rule ∈ p.rules, rule.name = "reset-state" ∧
        (∃ text b b' pattern,
          (rule.apply text).on b = (.error (.patternNotFound "reset-state" pattern), b')) ∧
        (∃ text b b' defect,
          (rule.apply text).on b = (.error (.malformedFragment "reset-state" defect), b')) ∧
        ∃ text b b' what expected actual,
          (rule.apply text).on b =
            (.error (.unexpectedShape "reset-state" what expected actual), b')) ∧
      ∀ raw, (∃ o, patch raw s = .ok o) ∨ patch raw s = .error (.alreadyPatched p.hooks.marker) ∨
        (∃ e, patch raw s = .error e ∧ e.isFormatDrift = true ∧
          ∃ rule ∈ p.rules, MayRaise rule.name e ∧
            ∃ text b b', (rule.apply text).on b = (.error e, b')) ∨
        ∃ e, patch raw s = .error e ∧
          ∃ rule ∈ p.rules, rule.name ∈ ["map-object", "map-encoder", "undo-history"] ∧
            rule.Oversized e ∧ ∃ text b b', (rule.apply text).on b = (.error e, b')) := by
  refine ⟨fun e => standard_eq_error_iff, fun checked => ?_⟩
  have valid := Settings.valid_of_validate checked
  refine ⟨s.pipeline, standard_eq_ok checked, rfl, ?_, ?_, fun raw => ?_⟩
  · exact fun rule member => (valid.isStandard rule member).parses
  · refine ⟨ResetState.ruleFor s.selectionCapabilities s.updateCapabilities, ?_, rfl,
      ResetState.raises_each s.selectionCapabilities s.updateCapabilities⟩
    exact List.mem_cons_of_mem _ (List.mem_cons_of_mem _ List.mem_cons_self)
  rw [patch_eq checked]
  cases ran : (s.pipeline.run raw).1 with
  | ok o => exact .inl ⟨o, rfl⟩
  | error e =>
    have honest := fun rule member => (valid.isStandard rule member).honest
    rcases run_error honest valid.validate ran with rfl | ⟨rule, member, text, b, b', ready, failed⟩
    · exact .inr (.inl rfl)
    · rcases valid.mayRaise member ready failed with raised | ⟨sized, large⟩
      · exact .inr (.inr (.inl
          ⟨e, rfl, raised.isFormatDrift, rule, member, raised, text, b, b', failed⟩))
      · exact .inr (.inr (.inr ⟨e, rfl, rule, member, sized, large, text, b, b', failed⟩))

namespace Sample

/-- The end of the sample, where nothing is left but the map and its encoder. -/
def mapAlone : Text := "\x7brxid:abc[1]\x7d;function Q()\x7b\x7dabc[1]=Q[T]();\n".toList

theorem stoppedIn?_mapAlone : stoppedIn? (patch mapAlone settings) = some ResetState.name := by
  suffices general : ∀ raw s, raw = mapAlone → s = settings → s.validate = .ok () →
      stoppedIn? (patch raw s) = some ResetState.name from general _ _ rfl rfl rfl
  intro raw s isMapAlone isSettings valid
  rw [Pipeline.patch_eq valid]
  simp only [Pipeline.run, Settings.pipeline, applyRules, MapObject.rule, MapEncoder.rule,
    ResetState.ruleFor, MapObject.apply, MapEncoder.apply, ResetState.apply, Signature.compile,
    Locator.first, Locator.replaceAll, Regex.ofText_eq_evaluate, Regex.first?_eq_evaluate,
    Regex.allMatches_eq_evaluate]
  clear valid
  subst isMapAlone isSettings
  decide +kernel

end Sample

/-- The sample is patched, and its end shows another shape to the third rule. -/
theorem Pipeline.standard_failures_of_sample :
    Sample.settings.validate = .ok () ∧ (∃ o, patch Sample.source Sample.settings = .ok o) ∧
      ∃ e, patch Sample.mapAlone Sample.settings = .error e ∧ e.isFormatDrift = true ∧
        ∃ rule ∈ Sample.settings.pipeline.rules, MayRaise rule.name e := by
  have valid : Sample.settings.validate = .ok () := by rfl
  obtain ⟨p, made, -, -, -, ends⟩ := (standard_failures Sample.settings).2 valid
  obtain rfl := Except.ok.inj ((standard_eq_ok valid).symm.trans made)
  obtain ⟨pattern, stopped⟩ := Sample.stoppedIn?_eq_some Sample.stoppedIn?_mapAlone
  refine ⟨valid, Sample.patched, ?_⟩
  rcases ends Sample.mapAlone with ⟨o, done⟩ | marked | ⟨e, failed, drift, rule, member, raised, -⟩ |
    ⟨e, failed, rule, -, -, ⟨_, -, _, pattern, _, -, -, -, rfl⟩, -⟩
  · exact nomatch stopped.symm.trans done
  · exact nomatch stopped.symm.trans marked
  · exact ⟨e, failed, drift, rule, member, raised⟩
  · exact nomatch stopped.symm.trans failed

end HookGraft

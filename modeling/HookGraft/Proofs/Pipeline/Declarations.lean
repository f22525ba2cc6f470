import HookGraft.Pipeline.Basic
import HookGraft.Proofs.Fallible
import HookGraft.Proofs.Regex.Evaluation
import HookGraft.Proofs.Rule.Standard

/-!
# Declarations and runs

The declarations of a pipeline are checked before any text is touched. If its rules keep to their
declarations, what was found to be available is bound when a rule runs, so that no rule of a checked
pipeline lacks an identifier.

## Main definitions

* `Rule.Honest`: rules that keep to their declarations
* `Rule.Ready`: bindings that lack nothing of what a rule needs
* `Sample.source`: a program with a fragment for each rule

## Main results

* `checkRules_cons_iff`: what the check of the declarations says of the first rule
* `applyRules_error`: a run fails as one of its rules does, when it was ready
* `Pipeline.declarations_sound`: no run of a checked pipeline lacks an identifier
-/

namespace HookGraft

/-! ## Rules that keep to their declarations -/

namespace Rule

/-- Rules that keep to their declarations. On any text, and on any bindings that hold what the rule
requires, it resolves every identifier, it lacks no parameter but one of a declared template that
nothing provides, and in the end all that it produces is bound besides what was bound before. -/
structure Honest (rule : Rule) : Prop where
  resolved {text : Text} {b b' : Bindings} {e : PatchError} : rule.requires ⊆ b.names →
    (rule.apply text).on b = (.error e, b') → ∀ r name, e ≠ .unresolvedDependency r name
  declared {text template : Text} {b b' : Bindings} {missing : String} : rule.requires ⊆ b.names →
    (rule.apply text).on b = (.error (.unboundParameter template missing), b') →
    ∃ t ∈ rule.templates, ∃ name ∈ t.parameters,
      name ∉ b.names ∧ name ∉ rule.produces ∧ name ∉ rule.locals
  provided {text : Text} {b b' : Bindings} {o : RuleOutcome} : rule.requires ⊆ b.names →
    (rule.apply text).on b = (.ok o, b') → b.names ⊆ b'.names ∧ rule.produces ⊆ b'.names

variable {rule : Rule} {b : Bindings}

/-- The standard rules keep to their declarations. -/
theorem IsStandard.honest (standard : rule.IsStandard) : rule.Honest where
  resolved := by
    rintro text b b' e - failed r name rfl
    rcases ((standard.meets text b).failure _ b' failed).2 with
      drift | ⟨t, -, _, _, _, -, -, -, eq⟩ | ⟨t, -, other, -, -, -, -, eq⟩
    · contradiction
    · contradiction
    · contradiction
  declared := by
    rintro text template b b' missing - failed
    rcases ((standard.meets text b).failure _ b' failed).2 with
      drift | ⟨t, -, _, _, _, -, -, -, eq⟩ |
        ⟨t, own, name, parameter, notBound, notProduced, notLocal, -⟩
    · contradiction
    · contradiction
    · exact ⟨t, own, name, parameter, notBound, notProduced, notLocal⟩
  provided := by
    rintro text b b' o - done
    obtain ⟨gained, same, gains⟩ := (standard.meets text b).success o b' done
    exact ⟨fun name old => gains.mem_names.2 (.inl old),
      fun name own => gains.mem_names.2 (.inr ((same name).2 own))⟩

/-- Bindings that lack nothing of what a rule needs. -/
structure Ready (rule : Rule) (b : Bindings) : Prop where
  required : rule.requires ⊆ b.names
  inScope : ∀ t ∈ rule.templates, ∀ name ∈ t.parameters,
    name ∈ b.names ∨ name ∈ rule.produces ∨ name ∈ rule.locals

/-- A rule that is ready lacks no parameter. -/
theorem Ready.not_unbound {e : PatchError} (ready : rule.Ready b) : ¬ rule.Unbound b e := by
  rintro ⟨t, own, name, parameter, notBound, notProduced, notLocal, -⟩
  rcases ready.inScope t own name parameter with bound | produced | isLocal
  · exact notBound bound
  · exact notProduced produced
  · exact notLocal isLocal

end Rule

/-! ## The check of the declarations -/

variable {rule : Rule} {rest : List Rule} {available scope : List String} {t : Template}

theorem find?_missing_eq_none_iff {names : List String} :
    (names.find? fun name => !available.contains name) = none ↔ names ⊆ available := by
  rw [List.find?_eq_none]
  constructor
  · exact fun all name own => by simpa using all name own
  · exact fun sub name own => by simpa using sub own

theorem Rule.checkRequires_eq_ok_iff :
    rule.checkRequires available = .ok () ↔ rule.requires ⊆ available := by
  rw [← find?_missing_eq_none_iff, Rule.checkRequires]
  cases rule.requires.find? fun name => !available.contains name with
  | none => exact ⟨fun _ => rfl, fun _ => rfl⟩
  | some name => exact ⟨fun h => by contradiction, fun h => by contradiction⟩

theorem Template.checkParameters_eq_ok_iff :
    t.checkParameters scope = .ok () ↔ t.parameters ⊆ scope := by
  rw [← find?_missing_eq_none_iff, Template.checkParameters]
  cases t.parameters.find? fun name => !scope.contains name with
  | none => exact ⟨fun _ => rfl, fun _ => rfl⟩
  | some name => exact ⟨fun h => by contradiction, fun h => by contradiction⟩

/-- What the check of the declarations says of the first rule. -/
theorem checkRules_cons_iff : checkRules available (rule :: rest) = .ok () ↔
    rule.requires ⊆ available ∧
      (∀ t ∈ rule.templates, t.parameters ⊆ available ++ rule.produces ++ rule.locals) ∧
      checkRules (available ++ rule.produces) rest = .ok () := by
  rw [checkRules, Except.bind_eq_ok]
  constructor
  · rintro ⟨⟨⟩, required, h⟩
    obtain ⟨⟨⟩, inScope, others⟩ := Except.bind_eq_ok.1 h
    refine ⟨Rule.checkRequires_eq_ok_iff.1 required, fun t own => ?_, others⟩
    exact Template.checkParameters_eq_ok_iff.1 (Except.forM_eq_ok.1 inScope t own)
  · rintro ⟨required, inScope, others⟩
    refine ⟨(), Rule.checkRequires_eq_ok_iff.2 required, Except.bind_eq_ok.2 ⟨(), ?_, others⟩⟩
    exact Except.forM_eq_ok.2 fun t own => Template.checkParameters_eq_ok_iff.2 (inScope t own)

/-- The check of the declarations of a standard rule comes down to what it needs. -/
theorem checkRules_of_isStandard (standard : rule.IsStandard)
    (named : Bindings.namespaceName ∈ available) (required : rule.requires ⊆ available)
    (others : checkRules (available ++ rule.produces) rest = .ok ()) :
    checkRules available (rule :: rest) = .ok () := by
  refine checkRules_cons_iff.2 ⟨required, fun t own name parameter => ?_, others⟩
  simp only [List.mem_append]
  rcases List.mem_cons.1 (standard.scoped t own parameter) with rfl | known
  · exact .inl (.inl named)
  · rcases List.mem_append.1 known with known | isLocal
    · rcases List.mem_append.1 known with needed | produced
      · exact .inl (.inl (required needed))
      · exact .inl (.inr produced)
    · exact .inr isLocal

/-! ## Runs -/

variable {rules : List Rule} {text : Text} {b : Bindings} {stats : StatsTable} {e : PatchError}

/-- What a checked rule needs is bound if all that is available is bound. -/
theorem Rule.ready_of_checkRules (checked : checkRules available (rule :: rest) = .ok ())
    (held : available ⊆ b.names) : rule.Ready b := by
  obtain ⟨required, inScope, -⟩ := checkRules_cons_iff.1 checked
  refine ⟨List.Subset.trans required held, fun t own name parameter => ?_⟩
  rcases List.mem_append.1 (inScope t own parameter) with known | isLocal
  · rcases List.mem_append.1 known with old | produced
    · exact .inl (held old)
    · exact .inr (.inl produced)
  · exact .inr (.inr isLocal)

/-- A run of checked rules fails as one of them does, on bindings for which it was ready. -/
theorem applyRules_error (honest : ∀ rule ∈ rules, rule.Honest)
    (checked : checkRules available rules = .ok ()) (held : available ⊆ b.names)
    (failed : (applyRules rules text b stats).1 = .error e) :
    ∃ rule ∈ rules, ∃ text' b' b'', rule.Ready b' ∧ (rule.apply text').on b' = (.error e, b'') := by
  induction rules generalizing available text b stats with
  | nil => contradiction
  | cons rule rest ih =>
    have ready := Rule.ready_of_checkRules checked held
    obtain ⟨first, others⟩ := List.forall_mem_cons.1 honest
    obtain ⟨-, -, checkedRest⟩ := checkRules_cons_iff.1 checked
    simp only [applyRules] at failed
    split at failed
    · rename_i e' b' here
      obtain rfl := Except.error.inj failed
      exact ⟨rule, List.mem_cons_self, text, b, b', ready, here⟩
    -- what is available to the rest has been bound: this is the invariant of the run
    · rename_i outcome b' here
      obtain ⟨kept, produced⟩ := first.provided ready.required here
      have heldRest : available ++ rule.produces ⊆ b'.names :=
        List.append_subset.2 ⟨List.Subset.trans held kept, produced⟩
      have later : ∃ stats', (applyRules rest outcome.text b' stats').1 = .error e := by
        split at failed
        · rename_i e' stats' there
          obtain rfl := Except.error.inj failed
          exact ⟨_, congrArg Prod.fst there⟩
        · contradiction
      obtain ⟨stats', later⟩ := later
      obtain ⟨other, member, found⟩ := ih others checkedRest heldRest later
      exact ⟨other, List.mem_cons_of_mem rule member, found⟩

/-! ## A sample -/

namespace Sample

/-- A program with a fragment for each rule. -/
def source : Text :=
  [ -- the colour picker with its helper
    "this[0123456789]=function(", "abc,abc,abc,abc)\x7b",
    "01234567890123456789", "01234567890123456789", "0123456789",
    "abc[]=abc[];", "abc[]=abc[];", "abc[]=abc[];", "abc(false);\x7d;return \x7bhue\n",
    -- the chat listener
    "this[0123456789]=function()\x7b", "01234567890123456789", "this[0123456789]=false;",
    "$(document)[0123456789]", "(0123456789,k2u);\x7d\n",
    -- the undo history
    "function k3Z()\x7ba;abc[5]--;\x7d", "abc[7][a]=Z[3](JSON[T](abc[1]))\n",
    -- the reset routine
    "function j0Z()\x7b", "z5i[1]=-1;z5i[2]=-1;z5i[3]=-1;",
    "p4Z();v4Z();B4Z(true);", "M4Z();y0Z();I6s();\x7d\n",
    -- the map and its encoder
    "\x7brxid:abc[1]\x7d;", "function Q()\x7b\x7d", "abc[1]=Q[T]();\n"].flatMap String.toList

/-- The rule that does not find its fragment. -/
def stoppedIn? : Except PatchError PatchOutcome → Option String
  | .error (.patternNotFound rule _) => some rule
  | _ => none

theorem stoppedIn?_eq_some {result : Except PatchError PatchOutcome} {rule : String}
    (h : stoppedIn? result = some rule) :
    ∃ pattern, result = .error (.patternNotFound rule pattern) := by
  simp only [stoppedIn?] at h
  split at h
  · rename_i rule' pattern
    obtain rfl := Option.some.inj h
    exact ⟨pattern, rfl⟩
  · contradiction

end Sample

/-! ## Pipelines -/

namespace Pipeline

variable {p : Pipeline} {raw : Text}

/-- A run of a checked pipeline fails because the text is patched already, or as one of its rules
does on bindings for which it was ready. -/
theorem run_error (honest : ∀ rule ∈ p.rules, rule.Honest) (valid : p.validate = .ok ())
    (failed : (p.run raw).1 = .error e) :
    e = .alreadyPatched p.hooks.marker ∨
      ∃ rule ∈ p.rules, ∃ text b b', rule.Ready b ∧ (rule.apply text).on b = (.error e, b') := by
  simp only [run, valid] at failed
  split at failed
  · exact .inl (Except.error.inj failed).symm
  · split at failed
    · rename_i e' stats ran
      obtain rfl := Except.error.inj failed
      refine .inr (applyRules_error honest valid ?_ (congrArg Prod.fst ran))
      exact List.Subset.refl _
    · contradiction

/-- No run of a checked pipeline of rules that keep to their declarations lacks a parameter or an
identifier, and the standard rules keep to theirs. -/
theorem declarations_sound :
    (∀ p : Pipeline, (∀ rule ∈ p.rules, rule.Honest) → p.validate = .ok () →
      ∀ raw e, (p.run raw).1 = .error e →
        (∀ template name, e ≠ .unboundParameter template name) ∧
          ∀ r name, e ≠ .unresolvedDependency r name) ∧
    ∀ rule : Rule, rule.IsStandard → rule.Honest := by
  refine ⟨fun p honest valid raw e failed => ?_, fun rule standard => standard.honest⟩
  rcases run_error honest valid failed with rfl | ⟨rule, member, text, b, b', ready, failed⟩
  · exact ⟨fun _ _ => nofun, fun _ _ => nofun⟩
  · refine ⟨?_, (honest rule member).resolved ready.required failed⟩
    rintro template missing rfl
    obtain ⟨t, own, name, parameter, notBound, notProduced, notLocal⟩ :=
      (honest rule member).declared ready.required failed
    rcases ready.inScope t own name parameter with bound | produced | isLocal
    · exact notBound bound
    · exact notProduced produced
    · exact notLocal isLocal

/-- On the sample the first four rules succeed, but the call that the last one looks for has been taken
out by then. -/
theorem declarations_sound_of_sample :
    let p : Pipeline :=
      { hooks := { root := "w" }
        rules := [MapObject.rule "rxid", MapEncoder.rule, UndoHistory.rule, ChatListener.rule,
          ChatListener.rule] }
    p.validate = .ok () ∧ ∃ pattern,
      (p.run Sample.source).1 = .error (.patternNotFound "chat-listener" pattern) ∧
      ∀ e, (p.run Sample.source).1 = .error e →
        (∀ template name, e ≠ .unboundParameter template name) ∧
          ∀ r name, e ≠ .unresolvedDependency r name := by
  intro p
  have honest : ∀ rule ∈ p.rules, rule.Honest := by
    have keeps := declarations_sound.2
    simp only [p, List.forall_mem_cons]
    exact ⟨keeps _ (.mapObject "rxid"), keeps _ .mapEncoder, keeps _ .undoHistory,
      keeps _ .chatListener, keeps _ .chatListener, List.forall_mem_nil _⟩
  have valid : p.validate = .ok () := by rfl
  have stopped : Sample.stoppedIn? (p.run Sample.source).1 = some "chat-listener" := by
    suffices general : ∀ raw, raw = Sample.source →
        Sample.stoppedIn? (p.run raw).1 = some "chat-listener" from general _ rfl
    intro raw isSample
    simp only [p, run, applyRules, MapObject.rule, MapEncoder.rule, UndoHistory.rule,
      ChatListener.rule, MapObject.apply, MapEncoder.apply, UndoHistory.apply, ChatListener.apply,
      Signature.compile, Locator.first, Locator.replaceAll, Regex.ofText_eq_evaluate,
      Regex.first?_eq_evaluate, Regex.allMatches_eq_evaluate]
    subst isSample
    decide +kernel
  obtain ⟨pattern, failed⟩ := Sample.stoppedIn?_eq_some stopped
  exact ⟨valid, pattern, failed, declarations_sound.1 p honest valid Sample.source⟩

end Pipeline

end HookGraft

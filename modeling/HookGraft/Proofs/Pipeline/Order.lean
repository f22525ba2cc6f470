import HookGraft.Proofs.FirstEntry
import HookGraft.Proofs.Pipeline.Declarations

/-!
# The order of rules

The check of the declarations goes through the rules once and collects what they produce. It accepts
them just if each rule stands behind those that produce what it needs, and it names what the first
rule that does not lacks first. So it says of a rule nothing that depends on the rules behind it.

## Main definitions

* `Provided`: the identifiers that are there behind some rules
* `Rule.Fits`: rules that can stand behind some rules
* `InOrder`: rules each of which fits behind those before it
* `Rule.Offends`: what the failure is for a rule that does not fit

## Main results

* `checkRules_append`: the check of rules goes on with what the rules before them produce
* `checkRules_eq_ok_iff_inOrder`, `checkRules_eq_error_iff`: what the check decides
* `Pipeline.validates_order`: the check of a pipeline decides the order of its rules
-/

namespace HookGraft

variable {rule : Rule} {rules earlier later : List Rule} {available scope names : List String}
  {name : String} {t : Template} {e : PatchError}

/-! ## The order -/

/-- The identifiers that are there behind some rules: that for the hook namespace, and what the rules
produce. -/
def Provided (earlier : List Rule) (name : String) : Prop :=
  name = Bindings.namespaceName ∨ ∃ rule ∈ earlier, name ∈ rule.produces

namespace Rule

/-- The names that the templates of a rule may speak of behind some rules: besides what is there, what
the rule itself produces, and its own local names. -/
def InScope (rule : Rule) (earlier : List Rule) (name : String) : Prop :=
  Provided earlier name ∨ name ∈ rule.produces ∨ name ∈ rule.locals

/-- All parameters of a template are in scope. -/
def Covers (rule : Rule) (earlier : List Rule) (t : Template) : Prop :=
  ∀ name ∈ t.parameters, rule.InScope earlier name

/-- Rules that can stand behind some rules. -/
structure Fits (rule : Rule) (earlier : List Rule) : Prop where
  required : ∀ name ∈ rule.requires, Provided earlier name
  covered : ∀ t ∈ rule.templates, rule.Covers earlier t

/-- What the failure is for a rule that does not fit. It names the first identifier that the rule
requires and lacks; if it lacks none, the first parameter that is not in scope, of the first template
that has any. -/
inductive Offends (rule : Rule) (earlier : List Rule) : PatchError → Prop where
  | unresolved {name : String} :
      IsFirstWith (fun n => ¬ Provided earlier n) rule.requires name →
      Offends rule earlier (.unresolvedDependency rule.name name)
  | uncovered {t : Template} {name : String} :
      (∀ name ∈ rule.requires, Provided earlier name) →
      IsFirstWith (fun t => ¬ rule.Covers earlier t) rule.templates t →
      IsFirstWith (fun n => ¬ rule.InScope earlier n) t.parameters name →
      Offends rule earlier (.unboundParameter t.source name)

end Rule

/-- Rules each of which fits behind those before it. -/
def InOrder (rules : List Rule) : Prop :=
  ∀ earlier rule later, rules = earlier ++ rule :: later → rule.Fits earlier

/-- What the failure is for the first rule that does not fit behind those before it. -/
def FirstOffence (rules : List Rule) (e : PatchError) : Prop :=
  ∃ earlier rule later, rules = earlier ++ rule :: later ∧ InOrder earlier ∧ rule.Offends earlier e

theorem inOrder_nil : InOrder [] := by
  rintro (_ | _) rule later whole
  · contradiction
  · contradiction

theorem inOrder_concat_iff : InOrder (rules ++ [rule]) ↔ InOrder rules ∧ rule.Fits rules := by
  constructor
  · intro h
    refine ⟨fun earlier other later whole => ?_, h rules rule [] rfl⟩
    exact h earlier other (later ++ [rule]) (by simp [whole])
  · rintro ⟨old, new⟩ earlier other later whole
    rcases concat_eq_append_cons_iff.1 whole with ⟨rest, -, split⟩ | ⟨-, rfl, rfl⟩
    · exact old earlier other rest split
    · exact new

theorem not_firstOffence_nil : ¬ FirstOffence [] e := by
  rintro ⟨_ | _, rule, later, whole, -⟩
  · contradiction
  · contradiction

theorem firstOffence_concat_iff : FirstOffence (rules ++ [rule]) e ↔
    FirstOffence rules e ∨ InOrder rules ∧ rule.Offends rules e := by
  constructor
  · rintro ⟨earlier, other, later, whole, fine, offence⟩
    rcases concat_eq_append_cons_iff.1 whole with ⟨rest, -, split⟩ | ⟨-, rfl, rfl⟩
    · exact .inl ⟨earlier, other, rest, split, fine, offence⟩
    · exact .inr ⟨fine, offence⟩
  · rintro (⟨earlier, other, later, rfl, fine, offence⟩ | ⟨fine, offence⟩)
    · exact ⟨earlier, other, later ++ [rule], by simp, fine, offence⟩
    · exact ⟨rules, rule, [], rfl, fine, offence⟩

/-! ## The check of one rule -/

theorem find?_missing_eq_some_iff : (names.find? fun n => !available.contains n) = some name ↔
    IsFirstWith (fun n => n ∉ available) names name := by
  rw [find?_eq_some_iff_isFirstWith]
  simp

theorem Rule.checkRequires_eq_error_iff : rule.checkRequires available = .error e ↔
    ∃ name, IsFirstWith (fun n => n ∉ available) rule.requires name ∧
      e = .unresolvedDependency rule.name name := by
  simp only [← find?_missing_eq_some_iff, Rule.checkRequires]
  cases rule.requires.find? fun n => !available.contains n with
  | none => simp
  | some name => simp [eq_comm]

theorem Template.checkParameters_eq_error_iff : t.checkParameters scope = .error e ↔
    ∃ name, IsFirstWith (fun n => n ∉ scope) t.parameters name ∧
      e = .unboundParameter t.source name := by
  simp only [← find?_missing_eq_some_iff, Template.checkParameters]
  cases t.parameters.find? fun n => !scope.contains n with
  | none => simp
  | some name => simp [eq_comm]

/-- What is available to the check behind some rules. -/
def availableBehind (earlier : List Rule) : List String :=
  Bindings.namespaceName :: earlier.flatMap Rule.produces

theorem mem_availableBehind_iff : name ∈ availableBehind earlier ↔ Provided earlier name := by
  simp [availableBehind, Provided]

theorem mem_scope_iff : name ∈ availableBehind earlier ++ rule.produces ++ rule.locals ↔
    rule.InScope earlier name := by
  simp [Rule.InScope, mem_availableBehind_iff]

/-- Behind some rules a rule passes the check just if it fits. -/
theorem checkRules_single_eq_ok_iff :
    checkRules (availableBehind earlier) [rule] = .ok () ↔ rule.Fits earlier := by
  rw [checkRules_cons_iff]
  constructor
  · rintro ⟨required, inScope, -⟩
    exact ⟨fun name own => mem_availableBehind_iff.1 (required own),
      fun t own name parameter => mem_scope_iff.1 (inScope t own parameter)⟩
  · rintro ⟨required, covered⟩
    exact ⟨fun name own => mem_availableBehind_iff.2 (required name own),
      fun t own name parameter => mem_scope_iff.2 (covered t own name parameter), rfl⟩

/-- Behind some rules a template fails the check just if the rule does not cover it. -/
theorem exists_checkParameters_error_iff :
    (∃ e, t.checkParameters (availableBehind earlier ++ rule.produces ++ rule.locals) = .error e) ↔
      ¬ rule.Covers earlier t := by
  have covers : t.checkParameters (availableBehind earlier ++ rule.produces ++ rule.locals) =
      .ok () ↔ rule.Covers earlier t := by
    rw [Template.checkParameters_eq_ok_iff]
    exact forall₂_congr fun name _ => mem_scope_iff
  rw [← covers]
  cases t.checkParameters (availableBehind earlier ++ rule.produces ++ rule.locals) with
  | error e => exact ⟨fun _ => nofun, fun _ => ⟨e, rfl⟩⟩
  | ok u => exact ⟨nofun, fun failed => absurd rfl failed⟩

/-- Behind some rules a rule fails the check as it offends. -/
theorem checkRules_single_eq_error_iff :
    checkRules (availableBehind earlier) [rule] = .error e ↔ rule.Offends earlier e := by
  have required : rule.checkRequires (availableBehind earlier) = .ok () ↔
      ∀ name ∈ rule.requires, Provided earlier name := by
    rw [Rule.checkRequires_eq_ok_iff]
    exact forall₂_congr fun name _ => mem_availableBehind_iff
  rw [checkRules, Except.bind_eq_error, Rule.checkRequires_eq_error_iff]
  constructor
  · rintro (⟨name, first, rfl⟩ | ⟨⟨⟩, met, failed⟩)
    · simp only [mem_availableBehind_iff] at first
      exact .unresolved first
    · rcases Except.bind_eq_error.1 failed with failed | ⟨_, _, ⟨⟩⟩
      obtain ⟨t, first, failed⟩ := Except.forM_eq_error_iff.1 failed
      obtain ⟨name, missing, rfl⟩ := Template.checkParameters_eq_error_iff.1 failed
      simp only [exists_checkParameters_error_iff] at first
      simp only [mem_scope_iff] at missing
      exact .uncovered (required.1 met) first missing
  · rintro (first | ⟨met, first, missing⟩)
    · simp only [← mem_availableBehind_iff] at first
      exact .inl ⟨_, first, rfl⟩
    · simp only [← exists_checkParameters_error_iff] at first
      simp only [← mem_scope_iff] at missing
      have failed := Except.forM_eq_error_iff.2
        ⟨_, first, Template.checkParameters_eq_error_iff.2 ⟨_, missing, rfl⟩⟩
      exact .inr ⟨(), required.2 met, Except.bind_eq_error.2 (.inl failed)⟩

/-! ## The check of all rules -/

/-- The check of rules goes on with what the rules before them produce. -/
theorem checkRules_append : checkRules available (earlier ++ later) =
    checkRules available earlier >>= fun _ =>
      checkRules (available ++ earlier.flatMap Rule.produces) later := by
  induction earlier generalizing available with
  | nil => simp [checkRules, bind, Except.bind]
  | cons rule rest ih =>
    simp only [List.cons_append, checkRules, ih, bind_assoc, List.flatMap_cons, List.append_assoc]

theorem checkRules_concat : checkRules (availableBehind []) (rules ++ [rule]) =
    checkRules (availableBehind []) rules >>= fun _ => checkRules (availableBehind rules) [rule] :=
  checkRules_append

/-- Rules pass the check just if they are in order. -/
theorem checkRules_eq_ok_iff_inOrder :
    checkRules (availableBehind []) rules = .ok () ↔ InOrder rules := by
  -- from the right: what the last rule can rely on is what all the others produce
  induction rules using List.reverseRecOn with
  | nil => exact ⟨fun _ => inOrder_nil, fun _ => rfl⟩
  | append_singleton rules rule ih =>
    rw [checkRules_concat, Except.bind_eq_ok, inOrder_concat_iff, ← ih,
      ← checkRules_single_eq_ok_iff]
    exact ⟨fun ⟨_, old, new⟩ => ⟨old, new⟩, fun ⟨old, new⟩ => ⟨(), old, new⟩⟩

/-- Rules fail the check as the first one that does not fit. -/
theorem checkRules_eq_error_iff :
    checkRules (availableBehind []) rules = .error e ↔ FirstOffence rules e := by
  induction rules using List.reverseRecOn with
  | nil => exact ⟨nofun, fun first => absurd first not_firstOffence_nil⟩
  | append_singleton rules rule ih =>
    rw [checkRules_concat, Except.bind_eq_error, firstOffence_concat_iff, ih,
      ← checkRules_single_eq_error_iff, ← checkRules_eq_ok_iff_inOrder]
    exact or_congr_right ⟨fun ⟨_, old, new⟩ => ⟨old, new⟩, fun ⟨old, new⟩ => ⟨(), old, new⟩⟩

namespace Pipeline

variable {p : Pipeline}

theorem rules_foldl_addRule (more : List Rule) :
    (more.foldl addRule p).rules = p.rules ++ more := by
  induction more generalizing p with
  | nil => exact (List.append_nil _).symm
  | cons rule more ih =>
    rw [List.foldl_cons, ih, addRule, List.append_assoc]
    rfl

/-- The check of the rules that come first decides if it fails. -/
theorem validate_foldl_addRule (more : List Rule) : (more.foldl addRule p).validate =
    p.validate >>= fun _ => checkRules (availableBehind p.rules) more := by
  rw [validate, rules_foldl_addRule, validate]
  exact checkRules_append

/-- The check of a pipeline decides the order of its rules. It is passed just if each rule requires
nothing but the namespace and what strictly earlier rules produce, and its templates speak of nothing
but that, what the rule itself produces and its own local names. Else the failure is that of the first
rule that does not fit: the first identifier that it requires and lacks, or else the first parameter out
of scope of its first template with any. So rules that are in order are still so when rules behind them
are left out, and rules that are added behind do not change a failure. -/
theorem validates_order (p : Pipeline) :
    (p.validate = .ok () ↔ InOrder p.rules) ∧
    (∀ e, p.validate = .error e ↔ FirstOffence p.rules e) ∧
    (∀ n, p.validate = .ok () → { p with rules := p.rules.take n }.validate = .ok ()) ∧
    ∀ (more : List Rule) e, p.validate = .error e → (more.foldl addRule p).validate = .error e := by
  refine ⟨checkRules_eq_ok_iff_inOrder, fun e => checkRules_eq_error_iff, fun n valid => ?_,
    fun more e failed => ?_⟩
  · have whole : checkRules (availableBehind []) (p.rules.take n ++ p.rules.drop n) = .ok () := by
      rw [List.take_append_drop]
      exact valid
    rw [checkRules_append] at whole
    obtain ⟨⟨⟩, first, -⟩ := Except.bind_eq_ok.1 whole
    exact first
  · rw [validate_foldl_addRule, failed]
    rfl

/-- A rule with given declarations, which leaves texts as they are. -/
def declaring (name : String) (requires produces locals : List String)
    (templates : List Template) : Rule where
  name
  description := "leaves the text as it is"
  requires
  produces
  locals
  templates
  apply text := pure { text, sites := 0 }

/-- Two rules in order, a third one that speaks of a local name of the first, and the two rules in the
wrong order. -/
theorem validates_order_of_three :
    let first := declaring "first" [] ["a"] ["l"] [⟨[.parameter "ns", .parameter "l"]⟩]
    let second := declaring "second" ["a"] ["b"] [] [⟨[.parameter "a", .parameter "b"]⟩]
    let third := declaring "third" ["b"] [] []
      [⟨[.parameter "ns"]⟩, ⟨[.parameter "a", .parameter "l"]⟩]
    let p : Pipeline := { hooks := { root := "w" }, rules := [first, second] }
    let leaking : PatchError := .unboundParameter "%\x7ba\x7d%\x7bl\x7d".toList "l"
    let lacking : PatchError := .unresolvedDependency "second" "a"
    p.validate = .ok () ∧ InOrder p.rules ∧
      { p with rules := p.rules.take 1 }.validate = .ok () ∧
      (p.addRule third).validate = .error leaking ∧
      FirstOffence (p.addRule third).rules leaking ∧
      ([first, second].foldl addRule (p.addRule third)).validate = .error leaking ∧
      { p with rules := [second, first] }.validate = .error lacking ∧
      FirstOffence [second, first] lacking := by
  intro first second third p leaking lacking
  obtain ⟨accepts, -, shorter, -⟩ := validates_order p
  obtain ⟨-, refuses, -, longer⟩ := validates_order (p.addRule third)
  obtain ⟨-, refuses', -⟩ := validates_order { p with rules := [second, first] }
  have valid : p.validate = .ok () := by decide
  have invalid : (p.addRule third).validate = .error leaking := by decide
  have misplaced : { p with rules := [second, first] }.validate = .error lacking := by decide
  exact ⟨valid, accepts.1 valid, shorter 1 valid, invalid, (refuses _).1 invalid,
    longer _ _ invalid, misplaced, (refuses' _).1 misplaced⟩

end Pipeline

end HookGraft

import HookGraft.Proofs.Pipeline.Runs
import HookGraft.Proofs.Stats
import Mathlib.Data.List.Induction
import Mathlib.Data.List.Nodup

/-!
# The statistics of a pipeline

A pipeline gathers statistics over its whole history: rules are added, texts are run, and counters
are set to zero again, in any order. The counters always fit the rules and what has happened to
them, and they never have an influence on what a run hands back.

## Main definitions

* `FailsAt`: a run fails in a rule, when the rules before it have succeeded
* `Pipeline.Action`, `Pipeline.after`: what can be done with a pipeline, and what it has become
* `Pipeline.Action.sinceClear`: what has been done since all counters were zero
* `StatsTable.Linked`: each rule was applied as often as the rule before it succeeded

## Main results

* `counted_of_ok`, `counted_of_error`: what the rules of a run count
* `StatsTable.Linked.of_ok`, `StatsTable.Linked.of_error`: a run keeps the rules linked
* `Pipeline.stats_of_history`: the statistics after any history
-/

namespace HookGraft

open StatsTable (Counted)

/-! ## Runs -/

section Runs

variable {rule : Rule} {rules rest : List Rule} {text : Text} {b b' : Bindings} {o : RuleOutcome}
  {stats : StatsTable} {e : PatchError}

theorem applyRules_cons_of_error (failed : (rule.apply text).on b = (.error e, b')) :
    applyRules (rule :: rest) text b stats =
      (.error e, (stats.update rule.name RuleStats.begin).update rule.name RuleStats.fail) := by
  simp only [applyRules, failed]

/-- What the rules behind the first one hand back, with the report of the first one in front. -/
theorem applyRules_cons_of_ok (done : (rule.apply text).on b = (.ok o, b')) :
    applyRules (rule :: rest) text b stats =
      (applyRules rest o.text b' ((stats.update rule.name RuleStats.begin).update rule.name
        (RuleStats.succeed o.sites))).map
        (Except.map fun (text, b, reports) => (text, b,
          { rule := rule.name, description := rule.description, sites := o.sites } :: reports))
        id := by
  simp only [applyRules, done]
  split
  · rename_i ran
    rw [ran]
    rfl
  · rename_i ran
    rw [ran]
    rfl

/-- What rules hand back does not depend on the statistics. -/
theorem applyRules_fst_eq (rules : List Rule) (text : Text) (b : Bindings)
    (stats stats' : StatsTable) :
    (applyRules rules text b stats).1 = (applyRules rules text b stats').1 := by
  induction rules generalizing text b stats stats' with
  | nil => rfl
  | cons rule rest ih =>
    rcases here : (rule.apply text).on b with ⟨e | o, b'⟩
    · rw [applyRules_cons_of_error here, applyRules_cons_of_error here]
    · rw [applyRules_cons_of_ok here, applyRules_cons_of_ok here, Prod.map_fst, Prod.map_fst, ih]

/-- A run of rules fails in one of them, when the rules before it have succeeded. -/
def FailsAt (rules : List Rule) (text : Text) (b : Bindings) (done : List Rule) (rule : Rule)
    (e : PatchError) : Prop :=
  ∃ rest text' b' b'', rules = done ++ rule :: rest ∧ Executes done text b text' b' ∧
    (rule.apply text').on b' = (.error e, b'')

/-- If all rules succeed, each of them is counted. -/
theorem counted_of_ok {result : Text × Bindings × List RuleReport}
    (named : ∀ rule ∈ rules, rule.name ∈ stats.names)
    (done : (applyRules rules text b stats).1 = .ok result) :
    Counted (rules.map Rule.name) none stats (applyRules rules text b stats).2 := by
  induction rules generalizing text b stats result with
  | nil => exact .refl stats
  | cons rule rest ih =>
    obtain ⟨first, others⟩ := List.forall_mem_cons.1 named
    rcases here : (rule.apply text).on b with ⟨e | o, b'⟩
    · rw [applyRules_cons_of_error here] at done
      contradiction
    · have counted := Counted.succeed first o.sites
      rw [applyRules_cons_of_ok here] at done ⊢
      cases later : (applyRules rest o.text b' ((stats.update rule.name RuleStats.begin).update
          rule.name (RuleStats.succeed o.sites))).1 with
      | error e =>
        rw [Prod.map_fst, later] at done
        contradiction
      | ok result' =>
        have behind := ih (fun rule member => counted.names.symm ▸ others rule member) later
        exact counted.trans behind

/-- If a rule fails, it is counted, and so are the rules before it. -/
theorem counted_of_error (named : ∀ rule ∈ rules, rule.name ∈ stats.names)
    (failed : (applyRules rules text b stats).1 = .error e) :
    ∃ done rule, FailsAt rules text b done rule e ∧
      Counted ((done ++ [rule]).map Rule.name) (some rule.name) stats
        (applyRules rules text b stats).2 := by
  induction rules generalizing text b stats with
  | nil => contradiction
  | cons rule rest ih =>
    obtain ⟨first, others⟩ := List.forall_mem_cons.1 named
    rcases here : (rule.apply text).on b with ⟨e' | o, b'⟩
    · rw [applyRules_cons_of_error here] at failed ⊢
      obtain rfl := Except.error.inj failed
      exact ⟨[], rule, ⟨rest, text, b, b', rfl, .nil text b, here⟩, .fail first⟩
    · have counted := Counted.succeed first o.sites
      rw [applyRules_cons_of_ok here] at failed ⊢
      cases later : (applyRules rest o.text b' ((stats.update rule.name RuleStats.begin).update
          rule.name (RuleStats.succeed o.sites))).1 with
      | ok result' =>
        rw [Prod.map_fst, later] at failed
        contradiction
      | error e' =>
        rw [Prod.map_fst, later] at failed
        obtain rfl := Except.error.inj failed
        obtain ⟨done, last, ⟨behind, text', b₁, b₂, rfl, ran, there⟩, countedRest⟩ :=
          ih (fun rule member => counted.names.symm ▸ others rule member) later
        exact ⟨rule :: done, last, ⟨behind, text', b₁, b₂, rfl, .cons here ran, there⟩,
          counted.trans countedRest⟩

end Runs

/-! ## Rules one behind the other -/

namespace StatsTable

variable {names : List String} {old new : StatsTable}

/-- Each rule was applied as often as the rule before it succeeded. -/
def Linked (names : List String) (table : StatsTable) : Prop :=
  ∀ i name next, names[i]? = some name → names[i + 1]? = some next →
    (table.entry next).applications + (table.entry name).errors = (table.entry name).applications

/-- Rules that have not been applied are linked. -/
theorem Linked.of_zero (zero : ∀ name, old.entry name = { ruleName := name }) :
    Linked names old := by
  intro i name next _ _
  rw [zero name, zero next, Nat.add_zero]

/-- In a list without repetitions, an initial part has those entries that lie in it. -/
theorem count_take {i k : Nat} {name : String} (distinct : names.Nodup)
    (here : names[i]? = some name) : (names.take k).count name = if i < k then 1 else 0 := by
  rw [(distinct.sublist (List.take_sublist k names)).count]
  obtain ⟨inside, rfl⟩ := List.getElem?_eq_some_iff.1 here
  refine if_congr ?_ rfl rfl
  rw [List.mem_take_iff_getElem]
  constructor
  · rintro ⟨j, less, same⟩
    have : j = i := (distinct.getElem_inj_iff).1 same
    omega
  · exact fun less => ⟨i, by omega, rfl⟩

/-- A run in which all rules succeed keeps the rules linked. -/
theorem Linked.of_ok (distinct : names.Nodup) (linked : Linked names old)
    (counted : Counted names none old new) : Linked names new := by
  intro i name next here behind
  have before := linked i name next here behind
  obtain ⟨inside, -⟩ := List.getElem?_eq_some_iff.1 here
  obtain ⟨inside', -⟩ := List.getElem?_eq_some_iff.1 behind
  have once := count_take (k := names.length) distinct here
  have once' := count_take (k := names.length) distinct behind
  rw [List.take_length, if_pos inside] at once
  rw [List.take_length, if_pos inside'] at once'
  rw [counted.applications, counted.applications, counted.errors, if_neg nofun, once, once']
  omega

/-- A run that fails in a rule keeps the rules linked. -/
theorem Linked.of_error {done rest : List String} {failed : String}
    (distinct : names.Nodup) (linked : Linked names old) (split : names = done ++ failed :: rest)
    (counted : Counted (done ++ [failed]) (some failed) old new) : Linked names new := by
  intro i name next here behind
  have before := linked i name next here behind
  have reached : done ++ [failed] = names.take (done.length + 1) := by
    rw [split, List.take_append, List.take_of_length_le (Nat.le_succ _), Nat.add_sub_cancel_left]
    rfl
  have place : names[done.length]? = some failed := by
    rw [split, List.getElem?_append_right (Nat.le_refl _), Nat.sub_self]
    rfl
  have isFailed : some failed = some name ↔ i = done.length := by
    obtain ⟨inside, -⟩ := List.getElem?_eq_some_iff.1 here
    rw [← place, ← here, eq_comm]
    exact List.getElem?_inj inside distinct
  rw [counted.applications, counted.applications, counted.errors, reached,
    count_take distinct here, count_take distinct behind, if_congr isFailed rfl rfl]
  split <;> split <;> split <;> omega

end StatsTable

/-! ## Histories -/

namespace Pipeline

/-- What can be done with a pipeline. -/
inductive Action where
  | add (rule : Rule)
  | run (raw : Text)
  | clear

namespace Action

/-- The rule that is added. -/
def rule? : Action → Option Rule
  | add rule => some rule
  | _ => none

/-- Whether a text is run. -/
def isRun : Action → Bool
  | run _ => true
  | _ => false

/-- Whether the counters are set to zero. -/
def isClear : Action → Bool
  | clear => true
  | _ => false

/-- What has been done since the counters were last set to zero, or since the beginning. -/
def sinceClear (history : List Action) : List Action :=
  (history.reverse.takeWhile fun action => !action.isClear).reverse

/-- No rule was added behind a run since the counters were last set to zero. -/
def AddedFirst (history : List Action) : Prop :=
  (sinceClear history).Pairwise fun earlier later => earlier.isRun = true → later.rule? = none

end Action

/-- What an action makes of a pipeline. -/
def perform (p : Pipeline) : Action → Pipeline
  | .add rule => p.addRule rule
  | .run raw => (p.run raw).2
  | .clear => p.clearStats

/-- What a pipeline has become after some actions. -/
def after (p : Pipeline) (history : List Action) : Pipeline := history.foldl perform p

variable {p start : Pipeline} {history : List Action} {action : Action} {raw : Text}
  {e : PatchError}

theorem after_concat : start.after (history ++ [action]) = (start.after history).perform action :=
  List.foldl_concat ..

theorem Action.sinceClear_concat : sinceClear (history ++ [action]) =
    if action.isClear then [] else sinceClear history ++ [action] := by
  rw [sinceClear, List.reverse_concat, List.takeWhile_cons]
  cases action.isClear
  · simp [sinceClear]
  · simp

/-! ### One run -/

theorem run_of_invalid (invalid : p.validate = .error e) : p.run raw = (.error e, p) := by
  simp only [run, invalid]

theorem run_of_marked (valid : p.validate = .ok ()) (marked : p.hooks.marker.hasInfix raw = true) :
    p.run raw = (.error (.alreadyPatched p.hooks.marker), p) := by
  simp only [run, valid, marked, if_true]

/-- A run that is not refused does what the rules do. -/
theorem run_eq_applyRules (valid : p.validate = .ok ())
    (unmarked : p.hooks.marker.hasInfix raw = false) :
    p.run raw = (applyRules p.rules raw (Bindings.seeded p.hooks.root.toList) p.stats).map
      (Except.map fun (text, identifiers, rules) =>
        { text := p.finish text
          report := { rules, identifiers, bytesIn := Text.utf8Size raw
                      bytesOut := Text.utf8Size (p.finish text) } })
      fun stats => { p with stats } := by
  simp only [run, valid, unmarked]
  rcases applyRules p.rules raw (Bindings.seeded p.hooks.root.toList) p.stats with ⟨_ | _, stats⟩
  · rfl
  · rfl

/-- The statistics have no influence on what a run hands back. -/
theorem run_fst_eq (p : Pipeline) (raw : Text) (stats : StatsTable) :
    ({ p with stats }.run raw).1 = (p.run raw).1 := by
  have same : ({ p with stats } : Pipeline).validate = p.validate := rfl
  cases valid : p.validate with
  | error e => rw [run_of_invalid valid, run_of_invalid (same.trans valid)]
  | ok =>
    cases marked : p.hooks.marker.hasInfix raw with
    | true => rw [run_of_marked valid marked, run_of_marked (same.trans valid) marked]
    | false =>
      rw [run_eq_applyRules valid marked, run_eq_applyRules (same.trans valid) marked,
        Prod.map_fst, Prod.map_fst, applyRules_fst_eq p.rules raw _ stats p.stats]
      rfl

/-- A run that is not refused and fails, fails in a rule. -/
theorem failsAt_of_run (named : ∀ rule ∈ p.rules, rule.name ∈ p.stats.names)
    (valid : p.validate = .ok ()) (unmarked : p.hooks.marker.hasInfix raw = false)
    (failed : (p.run raw).1 = .error e) :
    ∃ done rule, FailsAt p.rules raw (Bindings.seeded p.hooks.root.toList) done rule e ∧
      Counted ((done ++ [rule]).map Rule.name) (some rule.name) p.stats (p.run raw).2.stats := by
  rw [run_eq_applyRules valid unmarked] at failed ⊢
  exact counted_of_error named (Except.map_eq_error.1 failed)

/-- What a run may have counted. -/
theorem stats_run (named : ∀ rule ∈ p.rules, rule.name ∈ p.stats.names) (raw : Text) :
    (p.run raw).2.stats = p.stats ∨
      Counted (p.rules.map Rule.name) none p.stats (p.run raw).2.stats ∨
      ∃ done rule rest, p.rules = done ++ rule :: rest ∧
        Counted ((done ++ [rule]).map Rule.name) (some rule.name) p.stats (p.run raw).2.stats := by
  cases valid : p.validate with
  | error e => exact .inl (by rw [run_of_invalid valid])
  | ok =>
    cases marked : p.hooks.marker.hasInfix raw with
    | true => exact .inl (by rw [run_of_marked valid marked])
    | false =>
      cases ran : (p.run raw).1 with
      | error e =>
        obtain ⟨done, rule, ⟨rest, _, _, _, split, -⟩, counted⟩ :=
          failsAt_of_run named valid marked ran
        exact .inr (.inr ⟨done, rule, rest, split, counted⟩)
      | ok o =>
        rw [run_eq_applyRules valid marked] at ran ⊢
        cases applied :
            (applyRules p.rules raw (Bindings.seeded p.hooks.root.toList) p.stats).1 with
        | error e =>
          rw [Prod.map_fst, applied] at ran
          contradiction
        | ok result => exact .inr (.inl (counted_of_ok named applied))

theorem rules_run (p : Pipeline) (raw : Text) : (p.run raw).2.rules = p.rules := by
  cases valid : p.validate with
  | error e => rw [run_of_invalid valid]
  | ok =>
    cases marked : p.hooks.marker.hasInfix raw with
    | true => rw [run_of_marked valid marked]
    | false => rw [run_eq_applyRules valid marked, Prod.map_snd]

/-! ### Many actions -/

/-- The rules are those that have been added, in order. -/
theorem rules_after (start : Pipeline) (history : List Action) :
    (start.after history).rules = start.rules ++ history.filterMap Action.rule? := by
  induction history using List.reverseRecOn with
  | nil => exact (List.append_nil _).symm
  | append_singleton history action ih =>
    rw [after_concat, List.filterMap_append, ← List.append_assoc, ← ih]
    cases action with
    | add rule => rfl
    | run raw => exact (rules_run _ raw).trans (List.append_nil _).symm
    | clear => exact (List.append_nil _).symm

/-- What holds of the statistics at any time: there are counters for each name of a rule, in the
order in which the names have come up, and no more failures than applications. -/
structure Sound (p : Pipeline) : Prop where
  names : p.stats.names = (p.rules.map Rule.name).eraseDups
  distinct : p.stats.names.Nodup
  errors : ∀ name, (p.stats.entry name).errors ≤ (p.stats.entry name).applications

namespace Sound

theorem named (sound : p.Sound) : ∀ rule ∈ p.rules, rule.name ∈ p.stats.names := by
  intro rule member
  rw [sound.names, List.mem_eraseDups]
  exact List.mem_map_of_mem member

theorem addRule (sound : p.Sound) (rule : Rule) : (p.addRule rule).Sound where
  names := by
    show (p.stats.reset rule.name).names = ((p.rules ++ [rule]).map Rule.name).eraseDups
    rw [StatsTable.names_reset, List.map_append, List.eraseDups_append, sound.names]
    by_cases old : rule.name ∈ p.rules.map Rule.name
    · rw [if_pos (List.mem_eraseDups.2 old)]
      simp [List.removeAll, List.mem_map.1 old]
    · rw [if_neg (mt List.mem_eraseDups.1 old)]
      have new : ¬ ∃ other ∈ p.rules, other.name = rule.name := mt List.mem_map.2 old
      simp [List.removeAll, new]
      rfl
  distinct := by
    show (p.stats.reset rule.name).names.Nodup
    rw [StatsTable.names_reset]
    split
    · exact sound.distinct
    · rename_i new
      exact List.concat_eq_append ▸ sound.distinct.concat new
  errors name := by
    show ((p.stats.reset rule.name).entry name).errors ≤
      ((p.stats.reset rule.name).entry name).applications
    rw [StatsTable.entry_reset]
    split
    · exact Nat.le_refl 0
    · exact sound.errors name

theorem clearStats (sound : p.Sound) : p.clearStats.Sound where
  names := StatsTable.names_clear.trans sound.names
  distinct := StatsTable.names_clear.symm ▸ sound.distinct
  errors name := by
    have zero : p.stats.clear.entry name = { ruleName := name } := StatsTable.entry_clear
    show (p.stats.clear.entry name).errors ≤ (p.stats.clear.entry name).applications
    simp only [zero, Nat.le_refl]

theorem of_counted {reached : List String} {failed : Option String} {q : Pipeline}
    (sound : p.Sound) (rules : q.rules = p.rules)
    (counted : Counted reached failed p.stats q.stats)
    (own : ∀ name, failed = some name → name ∈ reached) : q.Sound where
  names := counted.names.trans (rules ▸ sound.names)
  distinct := counted.names.symm ▸ sound.distinct
  errors name := by
    have before := sound.errors name
    rw [counted.errors, counted.applications]
    split
    · rename_i same
      have applied := List.count_pos_iff.2 (own name same)
      omega
    · omega

theorem run (sound : p.Sound) (raw : Text) : (p.run raw).2.Sound := by
  have rules := rules_run p raw
  rcases stats_run sound.named raw with same | counted | ⟨done, rule, rest, -, counted⟩
  · exact ⟨by rw [same, rules, sound.names], same ▸ sound.distinct, same ▸ sound.errors⟩
  · exact sound.of_counted rules counted nofun
  · refine sound.of_counted rules counted ?_
    rintro name ⟨⟩
    exact List.mem_map_of_mem (List.mem_append_right _ List.mem_cons_self)

theorem perform (sound : p.Sound) (action : Action) : (p.perform action).Sound := by
  cases action with
  | add rule => exact sound.addRule rule
  | run raw => exact sound.run raw
  | clear => exact sound.clearStats

/-- No action makes the statistics unsound. -/
theorem after (sound : start.Sound) (history : List Action) : (start.after history).Sound := by
  induction history using List.reverseRecOn with
  | nil => exact sound
  | append_singleton history action ih => exact after_concat ▸ ih.perform action

end Sound

/-- A pipeline without rules. -/
theorem sound_empty (hooks : HookNamespace) (declareNamespace : Bool) :
    Sound { hooks, declareNamespace } :=
  ⟨rfl, List.nodup_nil, fun _ => Nat.le_refl 0⟩

/-- As long as no text has been run since the counters were set to zero, they are zero. -/
theorem entry_after_of_no_run (zero : ∀ name, start.stats.entry name = { ruleName := name })
    (none : ∀ action ∈ Action.sinceClear history, action.isRun = false) (name : String) :
    (start.after history).stats.entry name = { ruleName := name } := by
  induction history using List.reverseRecOn with
  | nil => exact zero name
  | append_singleton history action ih =>
    rw [Action.sinceClear_concat] at none
    rw [after_concat]
    cases action with
    | clear => exact StatsTable.entry_clear
    | run raw => exact absurd (none (.run raw) (by simp [Action.isClear])) (by simp [Action.isRun])
    | add rule =>
      have before := ih fun action member => none action (List.mem_append_left _ member)
      show ((start.after history).stats.reset rule.name).entry name = _
      rw [StatsTable.entry_reset, before]
      split
      · rename_i same
        rw [same]
      · rfl

/-- A run keeps the rules linked, whether it succeeds or not. -/
theorem linked_run (sound : p.Sound) (distinct : (p.rules.map Rule.name).Nodup)
    (linked : p.stats.Linked (p.rules.map Rule.name)) (raw : Text) :
    (p.run raw).2.stats.Linked (p.rules.map Rule.name) := by
  rcases stats_run sound.named raw with same | counted | ⟨done, rule, rest, split, counted⟩
  · rw [same]
    exact linked
  · exact linked.of_ok distinct counted
  · rw [List.map_append] at counted
    exact linked.of_error distinct (by rw [split, List.map_append, List.map_cons]) counted

/-- If the rules have different names and none was added behind a run, they are linked. -/
theorem linked_after (sound : start.Sound)
    (zero : ∀ name, start.stats.entry name = { ruleName := name })
    (distinct : ((start.after history).rules.map Rule.name).Nodup)
    (ordered : Action.AddedFirst history) :
    (start.after history).stats.Linked ((start.after history).rules.map Rule.name) := by
  induction history using List.reverseRecOn with
  | nil => exact .of_zero zero
  | append_singleton history action ih =>
    rw [Action.AddedFirst, Action.sinceClear_concat] at ordered
    cases action with
    | clear =>
      rw [after_concat]
      exact .of_zero fun name => StatsTable.entry_clear
    | run raw =>
      rw [after_concat, perform, rules_run] at distinct ⊢
      have before := ih distinct (List.pairwise_append.1 ordered).1
      exact linked_run (sound.after history) distinct before raw
    | add rule =>
      obtain ⟨-, -, last⟩ := List.pairwise_append.1 ordered
      refine .of_zero (entry_after_of_no_run zero fun action member => ?_)
      rw [Action.sinceClear_concat] at member
      rcases List.mem_append.1 member with earlier | here
      · have added := last action earlier _ List.mem_cons_self
        exact Bool.eq_false_iff.2 fun isRun => nomatch added isRun
      · rw [List.mem_singleton.1 here]
        rfl

/-- The statistics after any history of a pipeline that had no rules at first. There are counters
for the distinct names of the rules, with no more failures than applications, also when they are
held in 64 bits. A run that is refused counts nothing, and one that fails in a rule counts the rules
it has reached and one failure. What a run hands back does not depend on what was counted. If rules
with different names were all added before the first run, each rule was applied as often as the
rule before it succeeded. -/
theorem stats_of_history (hooks : HookNamespace) (declareNamespace : Bool)
    (history : List Action) (reached : p = after { hooks, declareNamespace } history) :
    p.rules = history.filterMap Action.rule? ∧
    p.stats.names = (p.rules.map Rule.name).eraseDups ∧
    (∀ s ∈ p.stats, s.errors ≤ s.applications ∧
      (s.applications < UInt64.size → s.errors.toUInt64 ≤ s.applications.toUInt64)) ∧
    (∀ raw e, p.validate = .error e → p.run raw = (.error e, p)) ∧
    (∀ raw, p.validate = .ok () → p.hooks.marker.hasInfix raw = true →
      p.run raw = (.error (.alreadyPatched p.hooks.marker), p)) ∧
    (∀ raw e, p.validate = .ok () → p.hooks.marker.hasInfix raw = false →
      (p.run raw).1 = .error e → ∃ done rule,
        FailsAt p.rules raw (Bindings.seeded p.hooks.root.toList) done rule e ∧
        Counted ((done ++ [rule]).map Rule.name) (some rule.name) p.stats (p.run raw).2.stats) ∧
    (∀ raw stats, ({ p with stats }.run raw).1 = (p.run raw).1) ∧
    ((p.rules.map Rule.name).Nodup → Action.AddedFirst history →
      ∀ i rule next, p.rules[i]? = some rule → p.rules[i + 1]? = some next →
        (p.stats.entry next.name).applications =
          (p.stats.entry rule.name).applications - (p.stats.entry rule.name).errors) := by
  have sound : p.Sound := reached ▸ (sound_empty hooks declareNamespace).after history
  have bounded : ∀ s ∈ p.stats, s.errors ≤ s.applications := by
    intro s member
    have fewer := sound.errors s.ruleName
    rwa [StatsTable.entry_of_mem sound.distinct member] at fewer
  refine ⟨?_, sound.names, fun s member => ⟨bounded s member, fun small => ?_⟩,
    fun raw e => run_of_invalid, fun raw => run_of_marked,
    fun raw e => failsAt_of_run sound.named, run_fst_eq p, ?_⟩
  · rw [reached]
    exact rules_after _ history
  · have fewer := bounded s member
    rw [UInt64.le_iff_toNat_le, Nat.toUInt64_eq, Nat.toUInt64_eq, UInt64.toNat_ofNat',
      UInt64.toNat_ofNat', Nat.mod_eq_of_lt small,
      Nat.mod_eq_of_lt (Nat.lt_of_le_of_lt fewer small)]
    exact fewer
  · intro distinct ordered i rule next here behind
    have linked : p.stats.Linked (p.rules.map Rule.name) := by
      rw [reached] at distinct ⊢
      exact linked_after (sound_empty hooks declareNamespace) (fun _ => rfl) distinct ordered
    have equation := linked i rule.name next.name (by rw [List.getElem?_map, here]; rfl)
      (by rw [List.getElem?_map, behind]; rfl)
    omega

/-- A rule that keeps all texts but those it refuses. -/
def refusing (name : String) (refused : List Text) : Rule where
  name
  description := ""
  apply text :=
    if text ∈ refused then throw (.patternNotFound name text) else return { text, sites := 1 }

/-- A run that succeeds and one that fails in the second of three rules, which have been added one
after the other. -/
def twoRuns : List Action :=
  [.add (refusing "a" []), .add (refusing "b" [[]]), .add (refusing "c" []), .run ['x'], .run []]

/-- After two runs, the third rule was applied as often as the second one succeeded. Another text
is refused because it is marked, and yet another one by the second rule. Where a rule needs what is
not bound, the run is refused as well. -/
theorem stats_of_history_of_three_rules :
    let p := after { hooks := { root := "w" } } twoRuns
    let q := after { hooks := { root := "w" } } [.add { refusing "a" [] with requires := ["b"] }]
    p.validate = .ok () ∧ (p.rules.map Rule.name).Nodup ∧ Action.AddedFirst twoRuns ∧
    p.stats.map (fun s => (s.ruleName, s.applications, s.errors)) =
      [("a", 2, 0), ("b", 2, 1), ("c", 1, 0)] ∧
    (p.stats.entry "c").applications =
      (p.stats.entry "b").applications - (p.stats.entry "b").errors ∧
    p.hooks.marker.hasInfix ['w', '.'] = true ∧
    p.run ['w', '.'] = (.error (.alreadyPatched p.hooks.marker), p) ∧
    p.hooks.marker.hasInfix [] = false ∧
    (p.run []).1 = .error (.patternNotFound "b" []) ∧
    (∃ done rule,
      FailsAt p.rules [] (Bindings.seeded p.hooks.root.toList) done rule
        (.patternNotFound "b" []) ∧
      Counted ((done ++ [rule]).map Rule.name) (some rule.name) p.stats (p.run []).2.stats) ∧
    q.validate = .error (.unresolvedDependency "a" "b") ∧
    q.run [] = (.error (.unresolvedDependency "a" "b"), q) := by
  intro p q
  obtain ⟨-, -, -, -, marked, failing, -, linked⟩ := stats_of_history _ _ twoRuns (p := p) rfl
  obtain ⟨-, -, -, invalid, -⟩ := stats_of_history _ _ _ (p := q) rfl
  have valid : p.validate = .ok () := by rfl
  have distinct : (p.rules.map Rule.name).Nodup := by decide
  have ordered : Action.AddedFirst twoRuns := by
    simp [Action.AddedFirst, Action.sinceClear, twoRuns, Action.isClear, Action.isRun,
      Action.rule?]
  have isMarked : p.hooks.marker.hasInfix ['w', '.'] = true := by decide
  have unmarked : p.hooks.marker.hasInfix [] = false := by decide
  have failed : (p.run []).1 = .error (.patternNotFound "b" []) := by
    rw [run_eq_applyRules valid unmarked]
    rfl
  exact ⟨valid, distinct, ordered, rfl, linked distinct ordered 1 _ _ rfl rfl, isMarked,
    marked _ valid isMarked, unmarked, failed, failing _ _ valid unmarked failed, rfl,
    invalid [] _ rfl⟩

end Pipeline

end HookGraft

import HookGraft.Hook.Namespace
import HookGraft.Pipeline.Report
import HookGraft.Pipeline.Stats
import HookGraft.Rule.Basic

/-!
# Pipelines

A pipeline runs rules in order over one text. The first failure ends the run, and nothing but the
failure is handed back.

## Main definitions

* `Pipeline`: rules in order, with their statistics
* `Pipeline.addRule`, `Pipeline.clearStats`: add a rule, and set all counters to zero
* `Pipeline.validate`: checks the declarations of the rules
* `Pipeline.run`: patches a text
-/

namespace HookGraft

/-- Rules in order, with their statistics. -/
structure Pipeline where
  hooks : HookNamespace
  rules : List Rule := []
  stats : StatsTable := []
  /-- whether the patched program creates the namespace -/
  declareNamespace : Bool := false

/-! ## Declarations -/

/-- Requires that every identifier a rule needs is available. -/
def Rule.checkRequires (rule : Rule) (available : List String) : Except PatchError Unit :=
  match rule.requires.find? fun name => !available.contains name with
  | none => .ok ()
  | some name => .error (.unresolvedDependency rule.name name)

/-- Requires that every parameter of a template is in scope. -/
def Template.checkParameters (scope : List String) (t : Template) : Except PatchError Unit :=
  match t.parameters.find? fun name => !scope.contains name with
  | none => .ok ()
  | some name => .error (.unboundParameter t.source name)

/-- Checks the declarations of rules, given the identifiers that are available before them. The
local names of a rule are in scope for its own templates alone. -/
def checkRules (available : List String) : List Rule → Except PatchError Unit
  | [] => .ok ()
  | rule :: rest => do
    rule.checkRequires available
    let scope := available ++ rule.produces ++ rule.locals
    rule.templates.forM (Template.checkParameters scope)
    checkRules (available ++ rule.produces) rest

/-! ## Runs -/

/-- Applies rules in order. Yields the text, the bindings and the reports they leave, or the first
failure, and in any case the statistics. -/
def applyRules : List Rule → Text → Bindings → StatsTable →
    Except PatchError (Text × Bindings × List RuleReport) × StatsTable
  | [], text, bindings, stats => (.ok (text, bindings, []), stats)
  | rule :: rest, text, bindings, stats =>
    let stats := stats.update rule.name RuleStats.begin
    match (rule.apply text).on bindings with
    | (.error e, _) => (.error e, stats.update rule.name RuleStats.fail)
    | (.ok outcome, bindings) =>
      let stats := stats.update rule.name (RuleStats.succeed outcome.sites)
      match applyRules rest outcome.text bindings stats with
      | (.error e, stats) => (.error e, stats)
      | (.ok (text, bindings, reports), stats) =>
        let report :=
          { rule := rule.name, description := rule.description, sites := outcome.sites }
        (.ok (text, bindings, report :: reports), stats)

namespace Pipeline

/-- Appends a rule. Counters under its name begin again. -/
def addRule (p : Pipeline) (rule : Rule) : Pipeline :=
  { p with rules := p.rules ++ [rule], stats := p.stats.reset rule.name }

/-- Sets all counters to zero. -/
def clearStats (p : Pipeline) : Pipeline := { p with stats := p.stats.clear }

/-- Checks that what each rule needs is there when it runs. -/
def validate (p : Pipeline) : Except PatchError Unit :=
  checkRules [Bindings.namespaceName] p.rules

/-- The text that is handed back when the rules have left `text`. -/
def finish (p : Pipeline) (text : Text) : Text :=
  if p.declareNamespace then p.hooks.prelude ++ text else text

/-- Patches a text: the outcome, or the first failure, and the pipeline with its new statistics. -/
def run (p : Pipeline) (raw : Text) : Except PatchError PatchOutcome × Pipeline :=
  match p.validate with
  | .error e => (.error e, p)
  | .ok () =>
    if Text.hasInfix p.hooks.marker raw then (.error (.alreadyPatched p.hooks.marker), p)
    else
      match applyRules p.rules raw (Bindings.seeded p.hooks.root.toList) p.stats with
      | (.error e, stats) => (.error e, { p with stats })
      | (.ok (text, identifiers, rules), stats) =>
        let text := p.finish text
        let report :=
          { rules, identifiers, bytesIn := Text.utf8Size raw, bytesOut := Text.utf8Size text }
        (.ok { text, report }, { p with stats })

end Pipeline

end HookGraft

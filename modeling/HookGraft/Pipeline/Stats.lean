import HookGraft.Json.Value

/-!
# Statistics

How often the rules of a pipeline have run, failed and rewritten fragments.

## Main definitions

* `RuleStats`: the counters of one rule
* `StatsTable`: the counters of all rules, in the order in which the rules were added
-/

namespace HookGraft

/-- The counters of one rule. -/
structure RuleStats where
  ruleName : String
  applications : Nat := 0
  sites : Nat := 0
  errors : Nat := 0
  totalMicros : Nat := 0
  deriving DecidableEq

namespace RuleStats

/-- A quotient of two counters in double precision, zero if there is nothing to divide by. -/
def ratio (n d : Nat) : Float :=
  if d = 0 then 0 else n.toUInt64.toFloat / d.toUInt64.toFloat

/-- The share of the applications that did not fail. -/
def successRate (s : RuleStats) : Float := ratio (s.applications - s.errors) s.applications

/-- The time that an application took on average, in microseconds. -/
def averageMicros (s : RuleStats) : Float := ratio s.totalMicros s.applications

/-- The counters as a JSON object. -/
def toJson (s : RuleStats) : JsonValue :=
  .object [
    ("rule_name", .string s.ruleName.toList),
    ("applications", .number s.applications),
    ("sites", .number s.sites),
    ("errors", .number s.errors),
    ("total_time_us", .number s.totalMicros)]

/-- One more application. -/
def begin (s : RuleStats) : RuleStats := { s with applications := s.applications + 1 }

/-- The application has rewritten so many fragments. -/
def succeed (sites : Nat) (s : RuleStats) : RuleStats := { s with sites := s.sites + sites }

/-- The application has failed. -/
def fail (s : RuleStats) : RuleStats := { s with errors := s.errors + 1 }

end RuleStats

/-- The counters of all rules, in the order in which the rules were added. -/
abbrev StatsTable := List RuleStats

namespace StatsTable

/-- The names of the rules. -/
def names (table : StatsTable) : List String := table.map RuleStats.ruleName

/-- The counters of a rule. -/
def get? (table : StatsTable) (name : String) : Option RuleStats :=
  table.find? fun s => s.ruleName == name

/-- Changes the counters of a rule, which begin at zero if the rule is new. -/
def update (name : String) (change : RuleStats → RuleStats) : StatsTable → StatsTable
  | [] => [change { ruleName := name }]
  | s :: rest => if s.ruleName = name then change s :: rest else s :: update name change rest

/-- Sets the counters of a rule to zero. -/
def reset (name : String) (table : StatsTable) : StatsTable :=
  table.update name fun _ => { ruleName := name }

/-- Sets all counters to zero. -/
def clear (table : StatsTable) : StatsTable :=
  table.map fun s => { ruleName := s.ruleName }

end StatsTable

end HookGraft

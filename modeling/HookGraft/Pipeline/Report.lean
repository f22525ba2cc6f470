import HookGraft.Bindings
import HookGraft.Json.Value

/-!
# Reports

What a successful run did.

## Main definitions

* `RuleReport`, `PatchReport`: what one rule did, and what the whole run did
* `Bindings.toJson`, `PatchReport.toJson`: the same as JSON objects
-/

namespace HookGraft

/-- What one rule did. -/
structure RuleReport where
  rule : String
  description : String
  sites : Nat
  elapsedMicros : Nat := 0
  deriving DecidableEq

/-- What a run did. -/
structure PatchReport where
  rules : List RuleReport
  identifiers : Bindings
  bytesIn : Nat
  bytesOut : Nat

/-- The patched text, with the report of the run. -/
structure PatchOutcome where
  text : Text
  report : PatchReport

/-- The bindings as a JSON object. -/
def Bindings.toJson (b : Bindings) : JsonValue :=
  .object (b.entries.map fun (name, value) => (name, .string value))

/-- The report of one rule as a JSON object. -/
def RuleReport.toJson (r : RuleReport) : JsonValue :=
  .object [
    ("rule", .string r.rule.toList),
    ("description", .string r.description.toList),
    ("sites", .number r.sites),
    ("elapsed_us", .number r.elapsedMicros)]

/-- The report of a run as a JSON object. -/
def PatchReport.toJson (r : PatchReport) : JsonValue :=
  .object [
    ("rules", .array (r.rules.map RuleReport.toJson)),
    ("identifiers", r.identifiers.toJson),
    ("bytes_in", .number r.bytesIn),
    ("bytes_out", .number r.bytesOut)]

end HookGraft

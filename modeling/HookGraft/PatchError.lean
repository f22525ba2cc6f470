import HookGraft.Text

/-!
# Failures

Why patching stops. Every failure is final: no partly patched text is ever handed back.

## Main definitions

* `FragmentDefect`, `TemplateDefect`, `PatternDefect`, `SettingsDefect`, `JsonDefect`: what exactly is
  wrong
* `PatchError`: the failures, with the rule that met them
* `PatchError.message`: the wording of a failure
* `PatchError.isFormatDrift`: whether the program being patched has changed its shape
-/

namespace HookGraft

/-- What is wrong with a fragment that was located but does not come apart as it should. -/
inductive FragmentDefect where
  | groupAbsent (index : Nat)
  | repeatedName (what : String) (name : Text)
  | noOpeningBrace
  | noClosingBrace
  | noDefinition
  | notRoutineName (name : Text)
  | notIndexedSlot (expression : Text)
  | notReset (statement : Text)
  | notCall (statement : Text)
  | noFlagArgument
  | other (reason : String)
  deriving DecidableEq

/-- What is wrong with the source of a template. -/
inductive TemplateDefect where
  | unterminated
  | invalidName (name : Text)
  | other (reason : String)
  deriving DecidableEq

/-- What is wrong with a pattern: it is no pattern, or it takes too much room. -/
inductive PatternDefect where
  | malformed
  | tooLarge
  deriving DecidableEq

/-- What is wrong with the settings. -/
inductive SettingsDefect where
  | blankNamespace
  | anchorKey (key : String)
  | colourInputId (id : String)
  | nameCount (field : String) (expected actual : Nat)
  | notIdentifier (field name : String)
  | duplicateName (field name : String)
  | capabilityCount (role : String) (expected actual : Nat)
  | other (reason : String)
  deriving DecidableEq

/-- What is wrong with a JSON text: it ends too early, it is no JSON, or it holds other data than
was asked for. -/
inductive JsonDefect where
  | endsEarly
  | malformed
  | unexpectedData
  deriving DecidableEq

/-- Why patching stops. -/
inductive PatchError where
  /-- a pattern occurs nowhere in the text -/
  | patternNotFound (rule : String) (pattern : Text)
  /-- a fragment comes apart into the wrong number of pieces -/
  | unexpectedShape (rule what : String) (expected actual : Nat)
  /-- a fragment has the right number of pieces, but not of the right kind -/
  | malformedFragment (rule : String) (defect : FragmentDefect)
  /-- a template speaks of an identifier that nothing is bound to -/
  | unboundParameter (template : Text) (identifier : String)
  /-- a template holds a broken placeholder -/
  | malformedTemplate (template : Text) (defect : TemplateDefect)
  /-- a rendered pattern is refused -/
  | invalidPattern (rule : String) (pattern : Text) (defect : PatternDefect)
  /-- a rule needs an identifier that no earlier rule produces -/
  | unresolvedDependency (rule identifier : String)
  /-- the text already holds injected hooks -/
  | alreadyPatched (marker : Text)
  | settings (defect : SettingsDefect)
  | io (reason : String)
  | json (defect : JsonDefect)
  deriving DecidableEq

/-- The wording of a defect. -/
def FragmentDefect.message : FragmentDefect → String
  | groupAbsent index => s!"capture group {index} did not participate"
  | repeatedName what name => s!"{what} '{String.ofList name}' appears more than once"
  | noOpeningBrace => "routine has no opening brace"
  | noClosingBrace => "routine body does not end with ';\x7d'"
  | noDefinition => "fragment does not start with a function definition"
  | notRoutineName name => s!"'{String.ofList name}' is not a routine name"
  | notIndexedSlot expression => s!"'{String.ofList expression}' is not an indexed slot"
  | notReset statement => s!"'{String.ofList statement}' does not reset a slot to -1"
  | notCall statement => s!"'{String.ofList statement}' is not a call"
  | noFlagArgument => "no update call takes a boolean flag"
  | other reason => reason

/-- The wording of a defect. -/
def TemplateDefect.message : TemplateDefect → String
  | unterminated => "unterminated placeholder"
  | invalidName name => s!"invalid placeholder name '{String.ofList name}'"
  | other reason => reason

/-- The wording of a defect, as far as it is fixed. For what is no pattern it is not. -/
def PatternDefect.message? : PatternDefect → Option String
  | malformed => none
  | tooLarge => some "Compiled regex exceeds size limit of 10485760 bytes."

/-- The wording of a defect. -/
def SettingsDefect.message : SettingsDefect → String
  | blankNamespace => "namespace must not be empty"
  | anchorKey key => s!"anchor_key '{key}' is not an identifier"
  | colourInputId id => s!"colour_input_id '{id}' cannot be embedded in a string literal"
  | nameCount field expected actual =>
    s!"{field} needs exactly {expected} names, got {actual}"
  | notIdentifier field name => s!"{field}: '{name}' is not an identifier"
  | duplicateName field name => s!"{field}: duplicate '{name}'"
  | capabilityCount role expected actual =>
    s!"reset-state needs {expected} {role} capabilities, got {actual}"
  | other reason => reason

namespace PatchError

/-- The wording of a failure. -/
def message : PatchError → String
  | patternNotFound rule pattern =>
    s!"Pattern not found in rule '{rule}': {String.ofList pattern}"
  | unexpectedShape rule what expected actual =>
    s!"Unexpected shape in rule '{rule}': expected {expected} {what}, found {actual}"
  | malformedFragment rule defect => s!"Malformed fragment in rule '{rule}': {defect.message}"
  | unboundParameter template identifier =>
    s!"Template references unresolved identifier '{identifier}': {String.ofList template}"
  | malformedTemplate template defect =>
    s!"Malformed template ({defect.message}): {String.ofList template}"
  | invalidPattern rule pattern _ => s!"Invalid pattern in rule '{rule}': {String.ofList pattern}"
  | unresolvedDependency rule identifier =>
    s!"Rule '{rule}' requires identifier '{identifier}' which no earlier rule produces"
  | alreadyPatched marker => s!"Source already patched: found '{String.ofList marker}'"
  | settings defect => s!"Configuration error: {defect.message}"
  | io reason => s!"I/O error: {reason}"
  | json _ => "JSON error"

/-- Whether a failure shows that the program being patched has changed its shape, rather than a
fault in the rules or in the settings. -/
def isFormatDrift : PatchError → Bool
  | patternNotFound .. | unexpectedShape .. | malformedFragment .. => true
  | _ => false

end PatchError

end HookGraft

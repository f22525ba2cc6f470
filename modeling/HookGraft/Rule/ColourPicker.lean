import HookGraft.Edit
import HookGraft.Rule.Basic

/-!
# The colour picker

The colour picker is a method of four arguments. It turns the first one into hue, brightness and
saturation, by a helper that is defined later on the same line. Its body is rewritten to remember
the arguments and to set a colour input; behind it, a routine is registered that opens the picker
again with another colour.

## Main definitions

* `ColourPicker.rule`: the rule, for the identity of the colour input
-/

namespace HookGraft.ColourPicker

/-- The method: a group for its head, one for its key within the head, and one for its body with the
closing brace and semicolon. -/
def picker : Signature where
  template := ⟨[
    "(this\\[(.{10,25})\\]=function",
    "\\(.{3,4},.{3,4},.{3,4},.{3,4}\\)\\\x7b)",
    "(.{50,250}",
    "(?:.{3,4}\\[.{0,25}\\]=.{3,4}\\[.{0,30}\\];){3}",
    ".{0,75}.{3,4}\\(false\\).{0,75};\\\x7d;)"]⟩

/-- The body of the method with the code around it. -/
def body : Template where
  segments := [
    .parameter "ns", ".showColourPickerArguments=[...arguments];\n",
    "document.getElementById(\"", .parameter "colour_input", "\")",
    ".value=\"#\"+arguments[0].toString(16).padStart(6,\"0\");",
    .parameter "fragment", ";let Kscpa=this[", .parameter "colour_picker_key", "];",
    .parameter "ns", ".setColourPickerColour=function(c)\x7bKscpa(c,...",
    .parameter "ns", ".showColourPickerArguments.slice(1));\x7d;\n"]

/-- The helper that follows the picker. -/
def helper : Text := "return \x7bhue".toList

/-- At most so many characters stand between the picker and the helper. -/
def window : Nat := 20000

/-- The name for the identity of the colour input. -/
def colourInput : String := "colour_input"

/-- Whether the helper follows a match, on the same line and soon enough. -/
def helperFollows (m : Match) : Bool :=
  let line := m.whole.stop.after.takeWhile fun c => c != '\n' && c != '\r'
  Text.hasInfix helper (line.take (window + helper.length))

/-- The name of the rule. -/
def name : String := "colour-picker"

/-- Locates the one picker that the helper follows and rewrites its body. -/
def apply (inputId : String) (text : Text) : Discovery RuleOutcome := do
  let found ← (← picker.compile name (← get)).unique text helperFollows
  let key ← found.capture name 2
  let inner ← found.capture name 3
  let span ← found.captureSpan name 3
  Discovery.bind Identifier.colourPickerKey key
  let bindings := ((← get).bind Identifier.fragment inner).bind colourInput inputId.toList
  return { text := span.replace (← body.render bindings .raw), sites := 1 }

/-- Remembers the arguments of the colour picker and registers a routine that opens it again. -/
def rule (inputId : String) : Rule where
  name := name
  description :=
    "Records colour picker arguments and exposes a setter that reopens it with a new colour"
  produces := [Identifier.colourPickerKey]
  locals := [Identifier.fragment, colourInput]
  templates := [picker.template, body]
  apply := apply inputId

end HookGraft.ColourPicker

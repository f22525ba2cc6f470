import HookGraft.Fragment.Statement

/-!
# Routines

A routine is written `function NAME(…){…;}`.

## Main definitions

* `routineBody`: what stands between the braces
* `routineName`: what stands between the keyword and the parenthesis
-/

namespace HookGraft

/-- The body of a routine: from behind the first opening brace to the last semicolon that a closing
brace follows. -/
def routineBody (rule : String) (fragment : Text) : Except PatchError Text :=
  match Text.cutFirst? ['\x7b'] fragment with
  | none => .error (.malformedFragment rule .noOpeningBrace)
  | some (_, rest) =>
    match Text.cutLast? [';', '\x7d'] rest with
    | none => .error (.malformedFragment rule .noClosingBrace)
    | some (body, _) => .ok body

/-- The name of the routine whose definition a fragment begins with. -/
def routineName (rule : String) (fragment : Text) : Except PatchError Text :=
  match Text.dropStart? "function ".toList fragment with
  | none => .error (.malformedFragment rule .noDefinition)
  | some rest =>
    let name := rest.headBefore '('
    if name.length < rest.length ∧ isPlainName name then .ok name
    else .error (.malformedFragment rule (.notRoutineName name))

end HookGraft

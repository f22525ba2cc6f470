import HookGraft.Regex.Search
import HookGraft.Regex.SizeLimit
import HookGraft.Template

/-!
# Signatures

A signature describes a fragment of the program by a pattern, with parameters for identifiers that
were found before. It is rendered with these identifiers escaped, and read as a regular expression.

## Main definitions

* `Signature`: a pattern with parameters
* `Signature.compile`: the regular expression for given bindings
* `Locator.first`, `Locator.all`, `Locator.unique`: the fragments a signature describes
* `Match.capture`, `Match.captureSpan`: what a group read, and where, on behalf of a rule
-/

namespace HookGraft

/-- A pattern with parameters. -/
structure Signature where
  template : Template
  /-- whether a dot matches line feeds -/
  multiline : Bool := false

/-- A signature rendered and read, on behalf of a rule. -/
structure Locator where
  rule : String
  pattern : Text
  regex : Regex

/-- Renders the pattern with the bound identifiers escaped, and reads it. -/
def Signature.compile (s : Signature) (rule : String) (bindings : Bindings) :
    Except PatchError Locator := do
  let pattern ← s.template.render bindings .escaped
  match Regex.ofText { dotAll := s.multiline } pattern with
  | .ok regex => .ok { rule, pattern, regex }
  | .error defect => .error (.invalidPattern rule pattern defect)

namespace Locator

/-- The pattern occurs nowhere. -/
def notFound (l : Locator) : PatchError := .patternNotFound l.rule l.pattern

/-- The first fragment. -/
def first (l : Locator) (text : Text) : Except PatchError Match :=
  match l.regex.first? text with
  | some found => .ok found
  | none => .error l.notFound

/-- All fragments, of which there has to be one at least. -/
def all (l : Locator) (text : Text) : Except PatchError (List Match) :=
  match l.regex.allMatches text with
  | [] => .error l.notFound
  | found => .ok found

/-- The only fragment that is accepted. -/
def unique (l : Locator) (text : Text) (accept : Match → Bool) : Except PatchError Match :=
  match (l.regex.allMatches text).filter accept with
  | [] => .error l.notFound
  | [found] => .ok found
  | found => .error (.unexpectedShape l.rule "candidate fragments" 1 found.length)

end Locator

namespace Match

/-- The failure for want of a group. -/
def missingGroup (rule : String) (index : Nat) : PatchError :=
  .malformedFragment rule (.groupAbsent index)

/-- The texts that the groups have read, as far as they took part. -/
def captures (m : Match) : List (Option Text) := m.groups.map (·.map Extent.text)

/-- The text that a group has read. Groups are counted from one. -/
def capture (m : Match) (rule : String) : (index : Nat) → Except PatchError Text
  | 0 => .error (missingGroup rule 0)
  | index + 1 =>
    match m.captures[index]? with
    | some (some text) => .ok text
    | _ => .error (missingGroup rule (index + 1))

/-- The extent of what a group has read. -/
def captureSpan (m : Match) (rule : String) : (index : Nat) → Except PatchError Extent
  | 0 => .error (missingGroup rule 0)
  | index + 1 =>
    match m.groups[index]? with
    | some (some extent) => .ok extent
    | _ => .error (missingGroup rule (index + 1))

end Match

end HookGraft

import HookGraft.Bindings
import HookGraft.Escape

/-!
# Templates

A template is a text with named placeholders, written `%{name}`. Rendering puts the bound texts in
their places, all at once: what is put in is not looked at again.

## Main definitions

* `Template`: literal texts and parameters in alternation
* `Template.source`: the text a template is written as
* `Template.parse`: reads that text
* `Template.parameters`: the parameters, in the order of their first use
* `Template.render`: puts texts in the place of the parameters
-/

namespace HookGraft

/-- How a text is put in the place of a parameter. -/
inductive Embedding where
  /-- as it is -/
  | raw
  /-- as the pattern that stands for it -/
  | escaped
  deriving DecidableEq

/-- The text that is put in. -/
def Embedding.apply : Embedding → Text → Text
  | raw, value => value
  | escaped, value => escape value

/-- A piece of a template. -/
inductive Segment where
  | literal (text : Text)
  | parameter (name : String)
  deriving DecidableEq

instance : Coe String Segment := ⟨fun text => .literal text.toList⟩

/-- The text a piece of a template is written as. -/
def Segment.source : Segment → Text
  | literal text => text
  | parameter name => '%' :: '\x7b' :: (name.toList ++ ['\x7d'])

/-- A text with named placeholders. -/
structure Template where
  segments : List Segment
  deriving DecidableEq

/-- Whether a text can name a parameter: it begins with an ASCII letter or an underscore and goes
on with these, ASCII digits and dots. -/
def isParameterName : Text → Bool
  | [] => false
  | c :: rest =>
    (c.isAlpha || c == '_') && rest.all fun c => c.isAlphanum || c == '_' || c == '.'

namespace Template

/-- The text a template is written as. -/
def source (t : Template) : Text := t.segments.flatMap Segment.source

/-- The parameters, in the order of their first use. -/
def parameters (t : Template) : List String :=
  (t.segments.filterMap fun
    | .literal _ => none
    | .parameter name => some name).eraseDups

/-- Reads the rest of a template. What has been read of a literal text, or of the name of a
parameter if `named`, is kept in reverse. -/
def parseFrom (named : Bool) (seen : Text) : Text → Except TemplateDefect (List Segment)
  | [] => if named then .error .unterminated else .ok [.literal seen.reverse]
  | c :: rest =>
    if named then
      if c = '\x7d' then
        if isParameterName seen.reverse then
          (parseFrom false [] rest).map (.parameter (String.ofList seen.reverse) :: ·)
        else .error (.invalidName seen.reverse)
      else parseFrom true (c :: seen) rest
    -- a brace opens a placeholder only directly behind a percent sign
    else if c = '\x7b' ∧ seen.head? = some '%' then
      (parseFrom true [] rest).map (.literal seen.tail.reverse :: ·)
    else parseFrom false (c :: seen) rest

/-- The template that a text is written for. -/
def parse (source : Text) : Except PatchError Template :=
  match parseFrom false [] source with
  | .ok segments => .ok ⟨segments⟩
  | .error defect => .error (.malformedTemplate source defect)

/-- The text for a piece of a template, or the name of the parameter that is not bound. -/
def renderSegment (bindings : Bindings) (embedding : Embedding) : Segment → Except String Text
  | .literal text => .ok text
  | .parameter name =>
    match bindings.get? name with
    | some value => .ok (embedding.apply value)
    | none => .error name

/-- Puts the bound texts in the place of the parameters. -/
def render (t : Template) (bindings : Bindings) (embedding : Embedding) :
    Except PatchError Text :=
  match t.segments.mapM (renderSegment bindings embedding) with
  | .ok pieces => .ok pieces.flatten
  | .error name => .error (.unboundParameter t.source name)

end Template

end HookGraft

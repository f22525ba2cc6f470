import HookGraft.Proofs.Discovery
import HookGraft.Proofs.Edit
import HookGraft.Proofs.Pattern.Signature

/-!
# Failures of rules

A rule renders the templates that it declares. What can be missing there is declared too: a
parameter that was bound before, that the rule binds itself, or that it binds for one fragment.

## Main definitions

* `Rule.Unbound`: the failures for want of a parameter that nothing provides
* `Rule.NotFound`, `Rule.Malformed`, `Rule.Misshapen`: the failures that show another shape of the
  program
* `Rule.Oversized`: the failures for a pattern that is too large

## Main results

* `Rule.unbound_of_render`, `Rule.unbound_of_compile`: when a failure is one for want of such a
  parameter
* `Rule.meets_compile`: the rule for steps that compile a signature
-/

namespace HookGraft

namespace Rule

variable {rule : Rule} {b b' : Bindings} {e : PatchError} {t : Template} {embedding : Embedding}

/-- A template of the rule has a parameter that is not bound, and that the rule does not bind. -/
def Unbound (rule : Rule) (b : Bindings) (e : PatchError) : Prop :=
  ∃ t ∈ rule.templates, ∃ name ∈ t.parameters, name ∉ b.names ∧ name ∉ rule.produces ∧
    name ∉ rule.locals ∧ e = .unboundParameter t.source name

/-- A pattern of the rule occurs nowhere. -/
def NotFound (rule : Rule) (e : PatchError) : Prop :=
  ∃ pattern, e = .patternNotFound rule.name pattern

/-- A fragment of the rule does not come apart as it should. -/
def Malformed (rule : Rule) (e : PatchError) : Prop :=
  ∃ defect, e = .malformedFragment rule.name defect

/-- A fragment of the rule comes apart into the wrong number of pieces. -/
def Misshapen (rule : Rule) (e : PatchError) : Prop :=
  ∃ what expected actual, e = .unexpectedShape rule.name what expected actual

/-- A pattern of the rule is well-formed, but stands for a term that is too large. -/
def Oversized (rule : Rule) (e : PatchError) : Prop :=
  ∃ t ∈ rule.templates, ∃ b pattern regex, t.render b .escaped = .ok pattern ∧
    Regex.parse? {} pattern = some regex ∧ regex.isTooLarge = true ∧
      e = .invalidPattern rule.name pattern .tooLarge

/-- Once what the rule provides for a template is bound, rendering can fail only for want of a
parameter that nothing provides. -/
theorem unbound_of_render (failed : t.render b' embedding = .error e)
    (declared : t ∈ rule.templates) (grown : b.names ⊆ b'.names)
    (provided : ∀ name ∈ t.parameters, name ∈ rule.produces ++ rule.locals → name ∈ b'.names) :
    rule.Unbound b e := by
  obtain ⟨name, parameter, missing, eq⟩ := Template.unbound_of_render failed
  refine ⟨t, declared, name, parameter, fun old => missing (grown old), ?_, ?_, eq⟩
  · exact fun own => missing (provided name parameter (List.mem_append_left _ own))
  · exact fun own => missing (provided name parameter (List.mem_append_right _ own))

/-- Without what the rule needs, a signature is not compiled, for want of a parameter. -/
theorem unbound_of_compile (rule : Rule) {s : Signature} (declared : s.template ∈ rule.templates)
    (missing : ∃ name ∈ s.template.parameters, b.get? name = none)
    (provided : ∀ name ∈ s.template.parameters, name ∉ rule.produces ++ rule.locals) :
    ∃ e, s.compile rule.name b = .error e ∧ rule.Unbound b e := by
  obtain ⟨e, failed⟩ := Template.render_eq_error .escaped missing
  refine ⟨e, ?_, unbound_of_render failed declared (List.Subset.refl _) ?_⟩
  · simp [Signature.compile, failed, bind, Except.bind]
  · exact fun name parameter own => absurd own (provided name parameter)

/-- A signature that stands for a term is compiled in a rule that declares it, or it is too large. -/
theorem meets_compile (rule : Rule) {α : Type} {f : Locator → Discovery α} {P : α → Bindings → Prop}
    {E : PatchError → Bindings → Prop} {s : Signature} {pattern : Text} {r : Regex}
    (standsFor : s.StandsFor b pattern r) (inLine : s.multiline = false)
    (declared : s.template ∈ rule.templates) (oversized : ∀ e, rule.Oversized e → E e b')
    (next : Discovery.Meets (f ⟨rule.name, pattern, r⟩) b' P E) :
    Discovery.Meets (liftM (s.compile rule.name b) >>= f) b' P E := by
  have compiled := standsFor.compile rule.name
  cases large : r.isTooLarge with
  | false => exact .lift_ok (compiled.trans (Locator.checked_eq_ok large)) next
  | true =>
    have read := standsFor.read
    rw [inLine] at read
    exact .lift_error (compiled.trans (Locator.checked_eq_error large))
      (oversized _ ⟨_, declared, b, pattern, r, standsFor.rendered, read, large, rfl⟩)

theorem notFound_of_first {l : Locator} {text : Text} (failed : l.first text = .error e)
    (same : l.rule = rule.name) : rule.NotFound e := by
  rw [Locator.first_error failed, Locator.notFound, same]
  exact ⟨_, rfl⟩

end Rule

end HookGraft

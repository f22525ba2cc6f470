import HookGraft.Proofs.Bindings
import HookGraft.Proofs.Fallible
import HookGraft.Template

/-!
# Rendering templates

A template is rendered if its parameters are bound. If it is not, the failure names one of its
parameters that nothing is bound to.

## Main definitions

* `Template.fill`: the text of a template, by the texts of its parameters

## Main results

* `Template.parse_escape`: an escaped text is read as a template without parameters
* `Template.render_eq_fill`: what is rendered if the parameters are bound
* `Template.eq_fill_of_render`: what is rendered, in any case
* `Template.unbound_of_render`: why rendering fails
* `Template.render_congr`: rendering depends on the parameters alone
* `Template.infix_of_render`: what is bound to a parameter occurs in what is rendered
-/

namespace HookGraft

/-- The text of a piece of a template, by the texts of the parameters. -/
def Segment.fill (value : String → Text) : Segment → Text
  | literal text => text
  | parameter name => value name

namespace Template

variable {t : Template} {b : Bindings} {embedding : Embedding} {name : String} {text : Text}

/-- The text of a template, by the texts of its parameters. -/
def fill (t : Template) (value : String → Text) : Text := t.segments.flatMap (Segment.fill value)

theorem mem_parameters : name ∈ t.parameters ↔ .parameter name ∈ t.segments := by
  rw [parameters, List.mem_eraseDups, List.mem_filterMap]
  constructor
  · rintro ⟨segment, member, eq⟩
    cases segment with
    | literal => contradiction
    | parameter =>
      obtain rfl := Option.some.inj eq
      exact member
  · exact fun member => ⟨_, member, rfl⟩

/-! ## Reading an escaped text -/

/-- A text with a backslash before each brace opens no placeholder. -/
theorem parseFrom_escape (t rest seen : Text) :
    parseFrom false seen (escape t ++ rest) =
      parseFrom false ((escape t).reverse ++ seen) rest := by
  induction t generalizing seen with
  | nil => rfl
  | cons c t ih =>
    rw [escape_cons, List.append_assoc]
    unfold escapeChar
    split
    · simp [parseFrom, ih]
    · rename_i plain
      have noBrace : c ≠ '\x7b' := by
        rintro rfl
        exact plain rfl
      simp [parseFrom, noBrace, ih]

/-- An escaped text is a template without parameters, whatever it holds. -/
theorem parse_escape (s : Text) : parse (escape s) = .ok ⟨[.literal (escape s)]⟩ := by
  have whole := parseFrom_escape s [] []
  rw [List.append_nil, List.append_nil] at whole
  rw [parse, whole, parseFrom]
  simp

/-! ## Success -/

theorem mapM_renderSegment {segments : List Segment} (embedding : Embedding)
    (value : String → Text)
    (bound : ∀ name, .parameter name ∈ segments → b.get? name = some (value name)) :
    segments.mapM (renderSegment b embedding) =
      .ok (segments.map (Segment.fill fun name => embedding.apply (value name))) := by
  induction segments with
  | nil => rfl
  | cons segment rest ih =>
    have others := ih fun name member => bound name (List.mem_cons_of_mem segment member)
    have first : renderSegment b embedding segment =
        .ok (segment.fill fun name => embedding.apply (value name)) := by
      cases segment with
      | literal => rfl
      | parameter name => simp [renderSegment, Segment.fill, bound name List.mem_cons_self]
    rw [List.mapM_cons, first, others]
    rfl

/-- What is rendered if the parameters are bound. -/
theorem render_eq_fill (value : String → Text)
    (bound : ∀ name ∈ t.parameters, b.get? name = some (value name)) :
    t.render b embedding = .ok (t.fill fun name => embedding.apply (value name)) := by
  have pieces := mapM_renderSegment embedding value fun name member =>
    bound name (mem_parameters.2 member)
  rw [render, pieces, fill, List.flatMap_def]

/-- A template without parameters is rendered as it is written. -/
theorem render_of_no_parameters (none : t.parameters = []) :
    t.render b embedding = .ok t.source := by
  have same (segment : Segment) (member : segment ∈ t.segments) :
      segment.fill (fun _ => embedding.apply []) = segment.source := by
    cases segment with
    | literal => rfl
    | parameter name =>
      have absent := mem_parameters.2 member
      rw [none] at absent
      contradiction
  rw [render_eq_fill (fun _ => []) (by simp [none]), fill, source, List.flatMap_def,
    List.flatMap_def, List.map_congr_left same]

/-- If a template is rendered, its parameters are bound. -/
theorem bound_of_render (h : t.render b embedding = .ok text) (member : name ∈ t.parameters) :
    ∃ value, b.get? name = some value := by
  simp only [render] at h
  split at h
  · rename_i pieces rendered
    obtain ⟨piece, here⟩ := Except.exists_of_mapM rendered (mem_parameters.1 member)
    simp only [renderSegment] at here
    split at here
    · exact ⟨_, ‹_›⟩
    · contradiction
  · contradiction

/-- What is rendered, in any case. -/
theorem eq_fill_of_render (h : t.render b .raw = .ok text) : text = t.fill b.textOf := by
  have all : ∀ name ∈ t.parameters, b.get? name = some (b.textOf name) := by
    intro name member
    obtain ⟨value, bound⟩ := bound_of_render h member
    rw [Bindings.textOf, bound, Option.getD_some]
  rw [render_eq_fill b.textOf all] at h
  exact (Except.ok.inj h).symm

/-- What is bound to a parameter occurs in what is rendered. -/
theorem infix_of_render {value : Text} (h : t.render b .raw = .ok text)
    (member : name ∈ t.parameters) (bound : b.get? name = some value) : value <:+: text := by
  obtain ⟨before, after, split⟩ := List.append_of_mem (mem_parameters.1 member)
  have here : Segment.fill b.textOf (.parameter name) = value := Bindings.textOf_eq bound
  rw [eq_fill_of_render h, fill, split, List.flatMap_append, List.flatMap_cons,
    ← List.append_assoc, here]
  exact List.infix_append _ _ _

/-- What is rendered depends on the parameters alone. -/
theorem render_congr {b' : Bindings}
    (same : ∀ name ∈ t.parameters, b.get? name = b'.get? name) :
    t.render b embedding = t.render b' embedding := by
  have step (segment : Segment) (member : segment ∈ t.segments) :
      renderSegment b embedding segment = renderSegment b' embedding segment := by
    cases segment with
    | literal => rfl
    | parameter name => rw [renderSegment, renderSegment, same name (mem_parameters.2 member)]
  rw [render, render, Except.mapM_congr step]

/-! ## Failure -/

/-- Rendering fails only for want of a parameter. -/
theorem unbound_of_render {e : PatchError} (h : t.render b embedding = .error e) :
    ∃ name ∈ t.parameters, name ∉ b.names ∧ e = .unboundParameter t.source name := by
  simp only [render] at h
  split at h
  · contradiction
  · rename_i name failed
    obtain ⟨segment, member, unbound⟩ := Except.exists_error_of_mapM failed
    cases segment with
    | literal => contradiction
    | parameter other =>
      simp only [renderSegment] at unbound
      split at unbound
      · contradiction
      · rename_i missing
        obtain rfl := Except.error.inj unbound
        exact ⟨other, mem_parameters.2 member, Bindings.not_mem_names_iff.2 missing,
          (Except.error.inj h).symm⟩

/-- Rendering does fail if a parameter is not bound. -/
theorem render_eq_error (embedding : Embedding)
    (missing : ∃ name ∈ t.parameters, b.get? name = none) :
    ∃ e, t.render b embedding = .error e := by
  obtain ⟨name, parameter, unbound⟩ := missing
  cases rendered : t.render b embedding with
  | error e => exact ⟨e, rfl⟩
  | ok text =>
    obtain ⟨value, bound⟩ := bound_of_render rendered parameter
    rw [unbound] at bound
    contradiction

end Template

end HookGraft

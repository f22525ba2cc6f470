import HookGraft.Proofs.Template.Grammar

/-!
# Rendering as substitution

To render a template is to put a text in the place of each placeholder, all at once: what has been put
in is not looked at again, even if it looks like a placeholder. It fails just if some parameter is not
bound, and names the first of them.

## Main definitions

* `Bindings.mapTexts`: bindings with all texts changed

## Main results

* `Template.render_eq_ok_iff`, `Template.render_eq_error_iff`: when rendering succeeds, and what it
  names when it fails
* `Template.render_escaped`: escaping can be done before or while rendering
* `Template.renders_at_once`: rendering is one simultaneous substitution
-/

namespace HookGraft

/-! ## Bindings with other texts -/

/-- Bindings with all texts changed. -/
def Bindings.mapTexts (f : Text → Text) (b : Bindings) : Bindings where
  entries := b.entries.map fun entry => (entry.1, f entry.2)
  nodup := by
    rw [List.map_map]
    exact b.nodup

theorem Bindings.get?_mapTexts (f : Text → Text) (b : Bindings) (name : String) :
    (b.mapTexts f).get? name = (b.get? name).map f := by
  show (b.entries.map fun entry => (entry.1, f entry.2)).lookup name = (b.entries.lookup name).map f
  induction b.entries with
  | nil => rfl
  | cons entry rest ih =>
    obtain ⟨key, bound⟩ := entry
    by_cases h : name = key
    · simp [h]
    · have h' : (name == key) = false := by simpa using h
      rw [List.map_cons, List.lookup_cons, List.lookup_cons, h', ih]

namespace Template

variable {t : Template} {b : Bindings} {embedding : Embedding} {segments : List Segment}
  {name : String}

/-! ## Success and failure -/

/-- Rendering succeeds just if all parameters are bound, and then it fills the template. -/
theorem render_eq_ok_iff {out : Text} : t.render b embedding = .ok out ↔
    (∀ name ∈ t.parameters, name ∈ b.names) ∧
      out = t.fill fun name => embedding.apply (b.textOf name) := by
  have filled (bound : ∀ name ∈ t.parameters, name ∈ b.names) :
      t.render b embedding = .ok (t.fill fun name => embedding.apply (b.textOf name)) := by
    refine render_eq_fill b.textOf fun name parameter => ?_
    obtain ⟨value, here⟩ := Bindings.mem_names_iff.1 (bound name parameter)
    rw [here, Bindings.textOf_eq here]
  constructor
  · intro rendered
    have bound : ∀ name ∈ t.parameters, name ∈ b.names := fun name parameter =>
      Bindings.mem_names_iff.2 (bound_of_render rendered parameter)
    exact ⟨bound, Except.ok.inj (rendered.symm.trans (filled bound))⟩
  · rintro ⟨bound, rfl⟩
    exact filled bound

/-- The pieces of a template fail at the first use of a parameter that is not bound. -/
theorem mapM_renderSegment_eq_error_iff :
    segments.mapM (renderSegment b embedding) = .error name ↔
      IsFirstWith (fun n => n ∉ b.names) (uses ⟨segments⟩) name := by
  induction segments with
  | nil => exact ⟨nofun, fun first => absurd first not_isFirstWith_nil⟩
  | cons segment rest ih =>
    rw [Except.mapM_cons_eq_error_iff, ih]
    cases segment with
    | literal text => exact ⟨fun h => (h.resolve_left nofun).2, fun h => .inr ⟨⟨text, rfl⟩, h⟩⟩
    | parameter other =>
      show _ ↔ IsFirstWith _ (other :: uses ⟨rest⟩) name
      rw [isFirstWith_cons_iff, renderSegment]
      cases bound : b.get? other with
      | none => simp [Bindings.not_mem_names_iff, bound, eq_comm]
      | some value => simp [Bindings.not_mem_names_iff, bound]

/-- Rendering fails just if some parameter is not bound, and it names the first one. -/
theorem render_eq_error_iff {e : PatchError} : t.render b embedding = .error e ↔
    ∃ name, IsFirstWith (fun n => n ∉ b.names) t.parameters name ∧
      e = .unboundParameter t.source name := by
  have pieces (name : String) : t.segments.mapM (renderSegment b embedding) = .error name ↔
      IsFirstWith (fun n => n ∉ b.names) t.parameters name :=
    mapM_renderSegment_eq_error_iff.trans isFirstWith_eraseDups_iff.symm
  simp only [← pieces, render]
  cases t.segments.mapM (renderSegment b embedding) with
  | error name => simp [eq_comm]
  | ok texts => simp

/-- Escaping can be done before or while rendering. -/
theorem render_escaped : t.render b .escaped = t.render (b.mapTexts escape) .raw := by
  have same : renderSegment b .escaped = renderSegment (b.mapTexts escape) .raw := by
    funext segment
    cases segment with
    | literal => rfl
    | parameter name =>
      rw [renderSegment, renderSegment, Bindings.get?_mapTexts]
      cases b.get? name with
      | none => rfl
      | some value => rfl
  rw [render, render, same]

/-! ## Substitution -/

/-- Rendering is one simultaneous substitution. The source comes apart into literal texts and
placeholders, and what is rendered are the literal texts with what is bound in the place of the
placeholders, as it is or escaped; this succeeds just if all parameters are bound. Otherwise the failure
holds the source and the first parameter that is not bound. Nothing but the parameters counts in the
bindings, and escaping while rendering is the same as escaping all that is bound before. -/
theorem renders_at_once {s : Text} (read : parse s = .ok t) (b : Bindings) (embedding : Embedding) :
    (∃ c : Composition, c.IsProper ∧ c.text = s) ∧
    (∀ c : Composition, c.IsProper → c.text = s → ListsFirstUses c.names t.parameters ∧
      ∀ out, t.render b embedding = .ok out ↔ (∀ name ∈ t.parameters, name ∈ b.names) ∧
        out = c.fill fun name => embedding.apply (b.textOf name)) ∧
    (∀ e, t.render b embedding = .error e ↔
      ∃ name, IsFirstWith (fun n => n ∉ b.names) t.parameters name ∧ e = .unboundParameter s name) ∧
    (∀ b' : Bindings, (∀ name ∈ t.parameters, b.get? name = b'.get? name) →
      t.render b embedding = t.render b' embedding) ∧
    t.render b .escaped = t.render (b.mapTexts escape) .raw := by
  obtain ⟨c, proper, whole, rfl⟩ := exists_of_parse read
  have source : source ⟨c.segments⟩ = s := by rw [source_segments, whole]
  refine ⟨⟨c, proper, whole⟩, fun d proper' whole' => ?_, fun e => ?_,
    fun b' same => render_congr same, render_escaped⟩
  · obtain rfl := proper'.eq_of_text proper (whole'.trans whole.symm)
    exact ⟨listsFirstUses_parameters, fun out => by rw [← fill_segments, render_eq_ok_iff]⟩
  · rw [← source, render_eq_error_iff]

/-- Two parameters, the first of which is used twice. -/
def twice : Template where
  segments := [.literal [], .parameter "a", .literal ['-'], .parameter "b", .literal [],
    .parameter "a", .literal []]

/-- A text that looks like a placeholder is bound to the parameter that is used twice. -/
theorem renders_at_once_of_twice :
    let s := "%\x7ba\x7d-%\x7bb\x7d%\x7ba\x7d".toList
    let c : Composition := ⟨[], [("a", ['-']), ("b", []), ("a", [])]⟩
    let b := (Bindings.empty.bind "a" "%\x7bb\x7d(".toList).bind "b" ['x']
    parse s = .ok twice ∧ c.IsProper ∧ c.text = s ∧
      twice.render b .raw = .ok "%\x7bb\x7d(-x%\x7bb\x7d(".toList ∧
      "%\x7bb\x7d(-x%\x7bb\x7d(".toList = c.fill b.textOf ∧
      twice.render b .raw = twice.render (b.bind "c" ['y']) .raw ∧
      twice.render b .escaped = twice.render (b.mapTexts escape) .raw ∧
      twice.render (Bindings.empty.bind "b" ['x']) .raw = .error (.unboundParameter s "a") := by
  intro s c b
  have read : parse s = .ok twice := by decide
  have proper : c.IsProper := by decide
  have whole : c.text = s := by decide
  have rendered : twice.render b .raw = .ok "%\x7bb\x7d(-x%\x7bb\x7d(".toList := by decide
  obtain ⟨-, filled, -, alone, escaped⟩ := renders_at_once read b .raw
  obtain ⟨-, -, fails, -⟩ := renders_at_once read (Bindings.empty.bind "b" ['x']) .raw
  obtain ⟨-, succeeds⟩ := filled c proper whole
  have first : IsFirstWith (fun n => n ∉ (Bindings.empty.bind "b" ['x']).names)
      twice.parameters "a" := ⟨[], ["b"], by decide, nofun, by decide⟩
  exact ⟨read, proper, whole, rendered, ((succeeds _).1 rendered).2, alone _ (by decide),
    escaped, (fails _).2 ⟨"a", first, rfl⟩⟩

end Template

end HookGraft

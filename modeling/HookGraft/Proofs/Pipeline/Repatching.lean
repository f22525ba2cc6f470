import HookGraft.Proofs.Pipeline.Slots
import HookGraft.Proofs.Pipeline.Statistics

/-!
# Patching a patched text

The last rule of the standard pipeline puts the namespace and a dot into the text, and nothing takes
anything out behind it. So the marker is found in every patched text, whatever the namespace is, and
the text is refused before any rule is applied.

## Main results

* `Settings.hasInfix_marker`: every patched text holds the marker
* `Settings.repatching_refused`: a patched text is refused
-/

namespace HookGraft

variable {s : Settings} {raw text : Text} {b b' : Bindings} {rules : List Rule}

/-- Standard rules leave the namespace bound to what it is bound to. -/
theorem Executes.keeps_namespace (run : Executes rules raw b text b')
    (standard : ∀ rule ∈ rules, rule.IsStandard) :
    b'.get? Bindings.namespaceName = b.get? Bindings.namespaceName := by
  induction run with
  | nil => rfl
  | cons here _ ih =>
    obtain ⟨first, others⟩ := List.forall_mem_cons.1 standard
    exact (ih others).trans (first.keeps_namespace here)

namespace Settings

/-- What the rules of the standard pipeline leave holds the marker. -/
theorem Valid.leaves_marker (valid : s.Valid)
    (run : Executes s.pipeline.rules raw (Bindings.seeded s.hookRoot.toList) text b) :
    s.hookNamespace.marker <:+: text := by
  obtain ⟨before, b₁, earlier, last⟩ := Executes.split _ (show Executes
    (s.pipeline.rules.take 5 ++ [ColourPicker.rule s.colourInputId]) raw _ text b from run)
  have kept := earlier.keeps_namespace fun rule member =>
    valid.isStandard rule (List.mem_of_mem_take member)
  obtain _ | ⟨here, behind⟩ := last
  cases behind
  have last : (ColourPicker.rule s.colourInputId).IsStandard := .colourPicker s.colourInputId
  have bound := (last.keeps_namespace here).trans (kept.trans Bindings.get?_bind_self)
  obtain ⟨codes, puts, grafted⟩ := ColourPicker.apply_grafts here
  obtain ⟨code, member, inside⟩ := (puts.serves bound).infix_text (by decide)
  exact inside.trans (grafted.infix_of_mem member)

/-- Every patched text holds the marker. -/
theorem hasInfix_marker {o : PatchOutcome} (checked : s.validate = .ok ())
    (done : patch raw s = .ok o) : s.hookNamespace.marker.hasInfix o.text = true := by
  rw [Pipeline.patch_eq checked] at done
  obtain ⟨text, finished, run⟩ := Pipeline.executes_of_run done
  have marked := (valid_of_validate checked).leaves_marker run
  have whole : s.hookNamespace.marker <:+: o.text := by
    rw [finished, Pipeline.finish]
    split
    · exact marked.trans (List.suffix_append _ _).isInfix
    · exact marked
  exact Text.hasInfix_iff.2 whole

/-- A patched text is not patched again with the same settings. It is refused for the marker, before
any rule is applied: a pipeline for the same namespace counts nothing, whatever its rules are. -/
theorem repatching_refused {o : PatchOutcome} (checked : s.validate = .ok ())
    (done : patch raw s = .ok o) :
    patch o.text s = .error (.alreadyPatched (s.hookRoot.toList ++ ['.'])) ∧
    (∀ p, Pipeline.standard s = .ok p →
      p.run o.text = (.error (.alreadyPatched (s.hookRoot.toList ++ ['.'])), p)) ∧
    ∀ p : Pipeline, p.hooks = s.hookNamespace → p.validate = .ok () →
      p.run o.text = (.error (.alreadyPatched (s.hookRoot.toList ++ ['.'])), p) := by
  have marked := hasInfix_marker checked done
  have refused : ∀ p : Pipeline, p.hooks = s.hookNamespace → p.validate = .ok () →
      p.run o.text = (.error (.alreadyPatched (s.hookRoot.toList ++ ['.'])), p) := by
    intro p same valid
    rw [Pipeline.run_of_marked valid (same ▸ marked), same]
    rfl
  have standard := refused s.pipeline rfl (valid_of_validate checked).validate
  refine ⟨?_, fun p made => ?_, refused⟩
  · rw [Pipeline.patch_eq checked, standard]
  · rw [Pipeline.standard_eq_ok checked] at made
    obtain rfl := Except.ok.inj made
    exact standard

/-- The patched sample is refused. -/
theorem repatching_refused_of_sample :
    Sample.settings.validate = .ok () ∧ ∃ o, patch Sample.source Sample.settings = .ok o ∧
      patch o.text Sample.settings = .error (.alreadyPatched ['w', '.']) ∧
      Pipeline.standard Sample.settings = .ok Sample.settings.pipeline ∧
      Sample.settings.pipeline.run o.text =
        (.error (.alreadyPatched ['w', '.']), Sample.settings.pipeline) ∧
      Pipeline.run { hooks := Sample.settings.hookNamespace } o.text =
        (.error (.alreadyPatched ['w', '.']), { hooks := Sample.settings.hookNamespace }) := by
  have valid : Sample.settings.validate = .ok () := by rfl
  obtain ⟨o, done⟩ := Sample.patched
  obtain ⟨refused, standard, always⟩ := repatching_refused valid done
  have made := Pipeline.standard_eq_ok valid
  exact ⟨valid, o, done, refused, made, standard _ made, always _ rfl rfl⟩

end Settings

end HookGraft

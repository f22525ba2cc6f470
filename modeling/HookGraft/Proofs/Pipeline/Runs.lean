import HookGraft.Proofs.Pipeline.Standard

/-!
# Runs that succeed

A run that succeeds applies one rule after the other, each to the text and to the bindings that the
one before it has left.

## Main definitions

* `Executes`: a chain of rules that succeed
* `Sample.settings`: settings under which the sample can be patched

## Main results

* `Pipeline.executes_of_run`: what a run hands back
* `Executes.split`: a chain of rules in two parts
* `Executes.sublist`, `Executes.gains`: what every rule of a chain does, the chain does
* `Sample.patched`: the sample can be patched
-/

namespace HookGraft

/-- Rules that succeed one after the other, from a text and bindings to others. -/
inductive Executes : List Rule → Text → Bindings → Text → Bindings → Prop where
  | nil (text : Text) (b : Bindings) : Executes [] text b text b
  | cons {rule : Rule} {rest : List Rule} {text out : Text} {b b' b'' : Bindings}
    {o : RuleOutcome} : (rule.apply text).on b = (.ok o, b') → Executes rest o.text b' out b'' →
    Executes (rule :: rest) text b out b''

variable {rules rest : List Rule} {text out : Text} {b b' : Bindings}

theorem executes_of_applyRules {stats : StatsTable} {reports : List RuleReport}
    (done : (applyRules rules text b stats).1 = .ok (out, b', reports)) :
    Executes rules text b out b' := by
  induction rules generalizing text b stats reports with
  | nil =>
    obtain ⟨rfl, rfl, -⟩ : text = out ∧ b = b' ∧ [] = reports := by simpa [applyRules] using done
    exact .nil text b
  | cons rule rest ih =>
    simp only [applyRules] at done
    split at done
    · contradiction
    · rename_i outcome b₁ here
      split at done
      · contradiction
      · rename_i out' b₂ reports' stats' later
        obtain ⟨rfl, rfl, -⟩ : out' = out ∧ b₂ = b' ∧ _ = reports := by simpa using done
        exact .cons here (ih (congrArg Prod.fst later))

/-- What a run hands back is what its rules leave, one after the other. -/
theorem Pipeline.executes_of_run {p : Pipeline} {raw : Text} {o : PatchOutcome}
    (done : (p.run raw).1 = .ok o) : ∃ text, o.text = p.finish text ∧
      Executes p.rules raw (Bindings.seeded p.hooks.root.toList) text o.report.identifiers := by
  simp only [run] at done
  split at done
  · contradiction
  · split at done
    · contradiction
    · split at done
      · contradiction
      · rename_i text b reports stats ran
        obtain rfl := Except.ok.inj done
        exact ⟨text, rfl, executes_of_applyRules (congrArg Prod.fst ran)⟩

namespace Executes

/-- A chain of rules in two parts. -/
theorem split (first : List Rule) (run : Executes (first ++ rest) text b out b') :
    ∃ text₁ b₁, Executes first text b text₁ b₁ ∧ Executes rest text₁ b₁ out b' := by
  induction first generalizing text b with
  | nil => exact ⟨text, b, .nil text b, run⟩
  | cons rule others ih =>
    cases run with
    | cons here later =>
      obtain ⟨text₁, b₁, run₁, run₂⟩ := ih later
      exact ⟨text₁, b₁, .cons here run₁, run₂⟩

/-- If no rule of a chain loses anything, the chain does not. -/
theorem sublist (run : Executes rules text b out b')
    (inserts : ∀ rule ∈ rules, ∀ text b o b', (rule.apply text).on b = (.ok o, b') →
      text.Sublist o.text) : text.Sublist out := by
  induction run with
  | nil => exact List.Sublist.refl _
  | cons here _ ih =>
    obtain ⟨head, others⟩ := List.forall_mem_cons.1 inserts
    exact (head _ _ _ _ here).trans (ih others)

/-- What the rules of a chain bind, the chain binds, one after the other. -/
theorem gains (named : List (Rule × List String))
    (run : Executes (named.map Prod.fst) text b out b')
    (binds : ∀ entry ∈ named, ∀ text b o b', (entry.1.apply text).on b = (.ok o, b') →
      b.Gains entry.2 b') : b.Gains (named.flatMap Prod.snd) b' := by
  induction named generalizing text b with
  | nil =>
    cases run
    exact .nil _
  | cons entry rest ih =>
    obtain ⟨head, others⟩ := List.forall_mem_cons.1 binds
    cases run with
    | cons here later => exact (head _ _ _ _ here).trans (ih later others)

end Executes

/-! ## A sample -/

namespace Sample

/-- Settings with short names. -/
def settings : Settings where
  hookRoot := "w"
  updateCapabilities := ["A", "B", "C", "D", "E", "F"]
  selectionCapabilities := ["A", "B", "C"]
  colourInputId := "k"

theorem isOk_patch : (patch source settings).isOk = true := by
  suffices general : ∀ raw s, raw = source → s = settings → s.validate = .ok () →
      (patch raw s).isOk = true from general source settings rfl rfl rfl
  intro raw s isSource isSettings valid
  rw [Pipeline.patch_eq valid]
  simp only [Pipeline.run, Settings.pipeline, applyRules, MapObject.rule, MapEncoder.rule,
    ResetState.ruleFor, UndoHistory.rule, ChatListener.rule, ColourPicker.rule, MapObject.apply,
    MapEncoder.apply, ResetState.apply, UndoHistory.apply, ChatListener.apply, ColourPicker.apply,
    ResetState.compile_routine, ChatListener.compile_unbinding, ColourPicker.compile_picker,
    Locator.first, Locator.unique, Locator.replaceAll, Regex.first?_eq_evaluate,
    Regex.allMatches_eq_evaluate]
  simp only [Signature.compile, Regex.ofText_eq_evaluate]
  clear valid
  subst isSource isSettings
  decide +kernel

/-- The sample can be patched. -/
theorem patched : ∃ o, patch source settings = .ok o := by
  have done := isOk_patch
  cases ran : patch source settings with
  | ok o => exact ⟨o, rfl⟩
  | error e => rw [ran] at done; contradiction

end Sample

end HookGraft

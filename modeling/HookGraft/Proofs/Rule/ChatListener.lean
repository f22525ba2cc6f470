import HookGraft.Proofs.Rule.Basic
import HookGraft.Rule.ChatListener

/-!
# What the chat listener rule does

The rule binds nothing. It takes out one call, which is at most 61 characters long.

## Main results

* `ChatListener.apply_meets`: the specification of the rule
-/

namespace HookGraft.ChatListener

open Discovery

/-- A text without one piece of at most 61 characters. -/
def Without (text out : Text) : Prop :=
  ∃ before removed after : Text, text = before ++ removed ++ after ∧ removed.length ≤ 61 ∧
    out = before ++ after

/-- A match comes apart into what has to stand before the call, which is kept, and the call. -/
theorem exists_kept {text skipped : Text} {m : Match} (found : unbindingTerm.Matches m)
    (pass : (Cursor.start text).Passes skipped m.whole.start) :
    ∃ mid kept removed, ChatListener.before.Reads m.whole.start [] mid ∧
      m.whole.start.Passes kept mid ∧ call.Reads mid [] m.whole.stop ∧
      mid.Passes removed m.whole.stop ∧
      text = skipped ++ kept ++ removed ++ m.whole.stop.after ∧
      m.keepOnly name 1 = .ok (skipped ++ kept ++ m.whole.stop.after) := by
  obtain ⟨mid, inGroup, first, last⟩ := found.group_first rfl rfl
  obtain ⟨kept, inside⟩ := first.passes
  obtain ⟨removed, behind⟩ := last.passes
  have front : m.whole.start.before.reverse = skipped := by simp [pass.before, Cursor.start]
  refine ⟨mid, kept, removed, first, inside, last, behind, ?_, ?_⟩
  · rw [Extent.text_eq pass (inside.trans behind), front]
    simp only [List.append_assoc]
  · have text : Extent.text ⟨m.whole.start, mid⟩ = kept := inside.extent_text
    rw [Match.keepOnly, Match.capture_eq_ok name inGroup, ← front, ← text]
    rfl

/-- The call is all that is taken out of a match. -/
theorem keepOnly_without {text skipped : Text} {m : Match} (found : unbindingTerm.Matches m)
    (pass : (Cursor.start text).Passes skipped m.whole.start) :
    ∃ out, m.keepOnly name 1 = .ok out ∧ Without text out := by
  obtain ⟨mid, kept, removed, -, -, last, behind, whole, replaced⟩ := exists_kept found pass
  have short : removed.length ≤ 61 := last.length_le rfl behind
  exact ⟨_, replaced, skipped ++ kept, removed, m.whole.stop.after, whole, short, rfl⟩

/-- The rule binds nothing, and takes out one piece of the text. -/
theorem apply_meets (text : Text) (b : Bindings) :
    Meets (apply text) b
      (fun o b' => b.Gains [] b' ∧ Without text o.text)
      (fun e b' => b' = b ∧ rule.NotFound e) := by
  refine .get (.lift_ok (compile_unbinding name b) (.lift (fun found search => ?_) ?_))
  · obtain ⟨isMatch, before, pass⟩ := Locator.first_sound search
    obtain ⟨out, kept, without⟩ := keepOnly_without isMatch pass
    exact .lift_ok kept (.pure ⟨.nil b, without⟩)
  · exact fun e failed => ⟨rfl, Rule.notFound_of_first failed rfl⟩

end HookGraft.ChatListener

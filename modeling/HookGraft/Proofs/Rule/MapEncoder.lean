import HookGraft.Proofs.Rule.Basic
import HookGraft.Rule.MapEncoder

/-!
# What the map encoder rule does

The rule binds the constructor of the map encoder. It puts the registration behind the definitions
of the constructor and loses nothing.

## Main results

* `MapEncoder.apply_meets`: the specification of the rule
-/

namespace HookGraft.MapEncoder

open Discovery

theorem parameters_registration : registration.parameters = ["map_encoder", "ns"] := by rfl

/-- A definition is part of the code that it is replaced by. -/
theorem registration_kept {b : Bindings} {encoder : Text}
    (bound : b.get? Identifier.mapEncoder = some encoder) {new : Text}
    (rendered : registration.render b .raw = .ok new) :
    (definitionText encoder).Sublist new := by
  have namespaced : "ns" ∈ registration.parameters := by
    rw [parameters_registration]
    decide
  obtain ⟨root, boundRoot⟩ := Template.bound_of_render rendered namespaced
  have filled : registration.render b .raw = _ :=
    Template.render_eq_fill (fun name => if name = "ns" then root else encoder)
      (List.forall_mem_cons.2 ⟨bound, List.forall_mem_singleton.2 boundRoot⟩)
  rw [filled] at rendered
  obtain rfl := Except.ok.inj rendered
  have behind (rest : Text) : ("()\x7b\x7d".toList).Sublist ("(){};".toList ++ rest) := by simp
  show ("function ".toList ++ (encoder ++ "()\x7b\x7d".toList)).Sublist _
  simp only [registration, Template.fill, Segment.fill, Embedding.apply, List.flatMap_cons,
    String.reduceEq, reduceIte]
  exact (List.Sublist.refl _).append ((List.Sublist.refl _).append (behind _))

/-- The rule binds the constructor, and loses nothing of the text. -/
theorem apply_meets (text : Text) (b : Bindings) :
    Meets (apply text) b
      (fun o b' => b.Gains [Identifier.mapEncoder] b' ∧ text.Sublist o.text)
      (fun e b' => b.Extends rule.produces b' ∧
        (rule.NotFound e ∨ rule.Oversized e ∨ rule.Unbound b e)) := by
  refine .get ?_
  cases slot : b.get? Identifier.mapObject with
  | none =>
    obtain ⟨e, failed, unbound⟩ := Rule.unbound_of_compile rule (s := construction)
      (b := b) (by simp [rule]) ⟨_, List.mem_singleton_self _, slot⟩ (by decide)
    exact .lift_error failed ⟨.refl _ b, .inr (.inr unbound)⟩
  | some slot =>
    obtain ⟨pattern, standsFor⟩ := construction_standsFor (b := b) (by assumption)
    refine Rule.meets_compile rule standsFor rfl (by simp [rule])
      (fun e large => ⟨.refl _ b, .inr (.inl large)⟩) (.lift (fun found search => ?_) ?_)
    · obtain ⟨isMatch, -⟩ := Locator.first_sound search
      obtain ⟨encoder, inGroup⟩ := isMatch.exists_group (n := 0) rfl
      refine .lift_ok (Match.capture_eq_ok name inGroup) (.bind (.get ?_))
      obtain ⟨pattern', standsFor'⟩ := definition_standsFor
        (Bindings.get?_bind_self : (b.bind Identifier.mapEncoder encoder.text).get? _ = _)
      have gained : b.Gains [Identifier.mapEncoder] (b.bind Identifier.mapEncoder encoder.text) :=
        Bindings.Gains.single b Identifier.mapEncoder encoder.text
      have changed := gained.frame rule.produces (List.Subset.refl _)
      refine Rule.meets_compile rule standsFor' rfl (by simp [rule])
        (fun e large => ⟨changed, .inr (.inl large)⟩)
        (.lift (fun registered rendered => ?_) fun e failed => ?_)
      · refine .lift (fun (out, sites) replaced => ?_) fun e failed => ?_
        · refine .check (fun _ => ⟨changed, .inl ⟨pattern', rfl⟩⟩) (.pure ⟨gained, ?_⟩)
          refine Locator.replaceAll_sublist (fun m isMatch new same => ?_) replaced
          obtain ⟨marks, ⟨inside, -⟩, -⟩ := isMatch.reads
          obtain rfl := Except.ok.inj same
          rw [inside.extent_text]
          exact registration_kept Bindings.get?_bind_self rendered
        · obtain ⟨m, -, unrendered⟩ := Locator.replaceAll_error failed
          contradiction
      · refine ⟨changed, .inr (.inr (Rule.unbound_of_render (t := registration) failed
          (by simp [rule]) changed.subset ?_))⟩
        rw [parameters_registration]
        simp [rule, Identifier.mapEncoder]
    · exact fun e failed => ⟨.refl _ b, .inl (Rule.notFound_of_first failed rfl)⟩

end HookGraft.MapEncoder

import HookGraft.Proofs.Rule.MapScanner

/-!
# The assignments that the map object rule rewrites

The rule takes every text of the shape of an assignment for an assignment to the slot. The signature
looks neither at what stands before the slot nor at what the equals sign is part of, so a slot of
another container and a comparison are taken for one, too. They are left alone only where they begin
inside another assignment.

## Main definitions

* `MapObject.IsProper`: an assignment to the slot itself
* `MapObject.Rewrites`: the fragments that are rewritten

## Main results

* `MapObject.rewrites_of_apply`: what the rule rewrites
* `MapObject.rewrites_proper_iff`: when all that is rewritten is an assignment to the slot itself
* `MapObject.rewrites_comparison`: a slot of another container and a comparison are rewritten
-/

namespace HookGraft.MapObject

open Discovery

/-- Characters that belong to a name, or to the access of a member, if they stand before a name. -/
def continuesName (c : Char) : Bool := Unicode.isWord c || c == '$' || c == '.'

/-- An assignment to the slot itself: the slot is no end of a longer name, and nothing is compared. -/
structure IsProper (slot before fragment : Text) : Prop where
  whole : ∀ c, before.getLast? = some c → continuesName c = false
  assigns : ¬ slot ++ "==".toList <+: fragment

/-- The fragments of a text that are rewritten, and what becomes of the text. -/
structure Rewrites (slot ns text : Text) (ms : List Match) (o : RuleOutcome) : Prop where
  fragments : Fragments (IsAssignment slot) (Cursor.start text) ms
  output : replaceMatches (fun m => .ok (m.whole.text ++ mirror ns slot)) (Cursor.start text) ms =
    .ok o.text
  sites : o.sites = ms.length

variable {key : String} {b b' : Bindings} {text : Text} {o : RuleOutcome}

/-- When the rule succeeds, it rewrites the fragments of the shape of an assignment. -/
theorem rewrites_of_apply (run : (apply key text).on b = (.ok o, b')) :
    ∃ slot ns ms, b'.get? Identifier.mapObject = some slot ∧
      b.get? Bindings.namespaceName = some ns ∧ Rewrites slot ns text ms o := by
  rw [apply, on_get_andThen, on_lift_andThen_eq_ok] at run
  obtain ⟨l, -, run⟩ := run
  obtain ⟨m, -, run⟩ := on_lift_andThen_eq_ok.1 run
  obtain ⟨slot, -, run⟩ := on_lift_andThen_eq_ok.1 run
  have object : ((b.bind Identifier.mapObject slot.object).bind Identifier.mapContainer
      slot.container).get? Identifier.mapObject = some slot.object :=
    Bindings.get?_bind_bind (by decide)
  rw [on_bind_name_andThen, on_bind_name_andThen, on_get_andThen, on_lift_andThen_eq_ok] at run
  obtain ⟨l, compiled, run⟩ := run
  obtain rfl := (assignment_standsFor object).eq_of_compile compiled
  obtain ⟨⟨out, sites⟩, replaced, run⟩ := on_lift_andThen_eq_ok.1 run
  obtain ⟨some, run⟩ := on_check_eq_ok.1 run
  obtain ⟨changed, rfl⟩ := Locator.replaceAll_eq_ok.1 replaced
  obtain ⟨m, member⟩ := List.exists_mem_of_length_pos (Nat.pos_of_ne_zero some)
  have whole (m : Match) (member : m ∈ (assignmentTerm slot.object).allMatches text) :
      m.capture name 1 = .ok m.whole.text :=
    Match.capture_eq_ok name ((Regex.allMatches_sound.of_mem member).1.group_whole rfl)
  obtain ⟨new, rendered⟩ := rendered_of_replaceMatches changed member
  rw [whole m member] at rendered
  have speaks : Bindings.namespaceName ∈ copied.parameters := by
    rw [parameters_copied]
    decide
  obtain ⟨ns, bound⟩ := Template.bound_of_render rendered speaks
  rw [Bindings.get?_bind_of_ne (by decide)] at bound
  obtain ⟨done, rfl⟩ := Prod.mk.inj run
  obtain rfl := Except.ok.inj done
  refine ⟨slot.object, ns, _, object, ?_, (assignment_locates slot.object).all text, ?_, rfl⟩
  · rwa [Bindings.get?_bind_of_ne (by decide), Bindings.get?_bind_of_ne (by decide)] at bound
  · refine (replaceMatches_congr fun m member => ?_).trans changed
    rw [whole m member]
    exact (render_copied m.whole.text bound object).symm

/-- All fragments that are rewritten are assignments to the slot itself, just if every text of the
shape of an assignment that is none begins inside such a fragment. -/
theorem rewrites_proper_iff (run : (apply key text).on b = (.ok o, b')) :
    ∃ slot ns ms, b'.get? Identifier.mapObject = some slot ∧
      b.get? Bindings.namespaceName = some ns ∧ Rewrites slot ns text ms o ∧
      ((∀ m ∈ ms, IsProper slot m.whole.start.before.reverse m.whole.text) ↔
        ∀ before fragment after, text = before ++ fragment ++ after → IsAssignment slot fragment →
          ¬ IsProper slot before fragment → ∃ m ∈ ms,
            m.whole.start.before.length < before.length ∧
              before.length < m.whole.stop.before.length) := by
  obtain ⟨slot, ns, ms, object, bound, rewrites⟩ := rewrites_of_apply run
  exact ⟨slot, ns, ms, object, bound, rewrites, rewrites.fragments.forall_iff (assignmentScanner slot)⟩

section Sample

/-- An assignment, an assignment to a slot of another container, and a comparison. -/
def sample : Text := "\x7brxid:abc[1]\x7d;abc[1]=q;xabc[1]=2;if(abc[1]==3)f();".toList

theorem cutFirst?_sample : (assignmentScanner "abc[1]".toList).cutFirst? sample = some
    ("\x7brxid:abc[1]\x7d;".toList, "abc[1]=q;".toList,
      "xabc[1]=2;if(abc[1]==3)f();".toList) := by rfl

theorem cutFirst?_sample_second :
    (assignmentScanner "abc[1]".toList).cutFirst? "xabc[1]=2;if(abc[1]==3)f();".toList =
      some (['x'], "abc[1]=2;".toList, "if(abc[1]==3)f();".toList) := by rfl

theorem cutFirst?_sample_third :
    (assignmentScanner "abc[1]".toList).cutFirst? "if(abc[1]==3)f();".toList =
      some ("if(".toList, "abc[1]==3)f();".toList, []) := by rfl

/-- The rule succeeds on the sample and rewrites three fragments. -/
theorem apply_sample : ∃ o b', (apply "rxid" sample).on (Bindings.empty.bind "ns" ['w']) =
    (.ok o, b') ∧ o.sites = 3 ∧ b'.get? Identifier.mapObject = some "abc[1]".toList := by
  have identifier : isIdentifier "rxid".toList = true := by decide
  have bound : (Bindings.empty.bind "ns" ['w']).get? Bindings.namespaceName = some ['w'] := by
    decide
  have anchor : (anchorScanner "rxid".toList).cutFirst? sample = some (['\x7b'],
      "rxid:abc[1]".toList, "\x7d;abc[1]=q;xabc[1]=2;if(abc[1]==3)f();".toList) := by rfl
  rw [apply_of_some identifier ((isSized_anchorTerm _).fits (by decide)) bound anchor]
  show ∃ o b', mirrorAll "abc[1]".toList ['w'] sample _ = (.ok o, b') ∧ _
  rw [mirrorAll, (isSized_assignmentTerm _).fits (by decide),
    Scanner.insertAfter_of_some _ cutFirst?_sample,
    Scanner.insertAfter_of_some _ cutFirst?_sample_second,
    Scanner.insertAfter_of_some _ cutFirst?_sample_third, Scanner.insertAfter_of_none _ rfl]
  exact ⟨_, _, rfl, rfl, Bindings.get?_bind_bind (by decide)⟩

/-- A slot of another container and a comparison are rewritten. -/
theorem rewrites_comparison : ∃ o b' ns ms,
    (apply "rxid" sample).on (Bindings.empty.bind "ns" ['w']) = (.ok o, b') ∧
      b'.get? Identifier.mapObject = some "abc[1]".toList ∧
      Rewrites "abc[1]".toList ns sample ms o ∧ ∃ m ∈ ms, ∃ m' ∈ ms,
        m.whole.text = "abc[1]=2;".toList ∧ m'.whole.text = "abc[1]==3)f();".toList ∧
        ¬ IsProper "abc[1]".toList m.whole.start.before.reverse m.whole.text ∧
        ¬ IsProper "abc[1]".toList m'.whole.start.before.reverse m'.whole.text := by
  obtain ⟨o, b', run, -, object⟩ := apply_sample
  obtain ⟨slot, ns, ms, object', -, rewrites⟩ := rewrites_of_apply run
  obtain rfl := Option.some.inj (object.symm.trans object')
  refine ⟨o, b', ns, ms, run, object, rewrites, ?_⟩
  obtain ⟨first, rest, rfl, -, -, behind, others⟩ :=
    rewrites.fragments.of_cutFirst? _ cutFirst?_sample
  obtain ⟨m, rest, rfl, pass, second, behind, others⟩ :=
    others.of_cutFirst? _ (behind.symm ▸ cutFirst?_sample_second)
  obtain ⟨m', rest, rfl, -, third, -⟩ := others.of_cutFirst? _ (behind.symm ▸ cutFirst?_sample_third)
  refine ⟨m, by simp, m', by simp, second, third, fun proper => ?_, fun proper => ?_⟩
  · have letter := proper.whole 'x' (by rw [pass.before, List.getLast?_reverse]; rfl)
    exact absurd letter (by decide)
  · exact proper.assigns (third ▸ by decide)

/-- The rule succeeds on the sample, so what is rewritten there is as the theorem says. -/
theorem rewrites_proper_iff_sample : ∃ o b',
    (apply "rxid" sample).on (Bindings.empty.bind "ns" ['w']) = (.ok o, b') ∧
      ∃ slot ns ms, b'.get? Identifier.mapObject = some slot ∧
        (Bindings.empty.bind "ns" ['w']).get? Bindings.namespaceName = some ns ∧
        Rewrites slot ns sample ms o ∧
        ((∀ m ∈ ms, IsProper slot m.whole.start.before.reverse m.whole.text) ↔
          ∀ before fragment after, sample = before ++ fragment ++ after →
            IsAssignment slot fragment → ¬ IsProper slot before fragment → ∃ m ∈ ms,
              m.whole.start.before.length < before.length ∧
                before.length < m.whole.stop.before.length) := by
  obtain ⟨o, b', run, -, -⟩ := apply_sample
  exact ⟨o, b', run, rewrites_proper_iff run⟩

end Sample

end HookGraft.MapObject

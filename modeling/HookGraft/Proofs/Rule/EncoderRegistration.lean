import HookGraft.Proofs.Pattern.Locating
import HookGraft.Proofs.Regex.Evaluation
import HookGraft.Proofs.Regex.Substitution
import HookGraft.Proofs.Rule.MapEncoder

/-!
# How the map encoder is registered

The rule takes the constructor from the leftmost construction of a map in the slot. Its name is one
character, whatever that is. Then the rule replaces the definition of the constructor by another
text, as if there were no patterns: in all places where it occurs, and nowhere else.

## Main definitions

* `MapEncoder.IsMadeBy`: the constructor of the leftmost construction
* `MapEncoder.registered`: what the definition of a constructor is replaced by

## Main results

* `MapEncoder.apply_of_made`: the rule as the replacement of a text
* `MapEncoder.replaces_definitions`: what the rule does, with and without a construction
-/

namespace HookGraft.MapEncoder

open Discovery Regex

variable {slot ns text : Text} {encoder : Char} {b b' : Bindings} {m : Match}

/-! ## The construction -/

/-- The constructor of the leftmost construction of a map in a slot: it stands between the equals sign
behind the slot and a bracket, and is any character but a newline. -/
def IsMadeBy (slot text : Text) (encoder : Char) : Prop :=
  encoder ≠ '\n' ∧ ∃ before method after, IsSpan 1 25 method ∧
    text = before ++ (slot ++ '=' :: encoder :: '[' :: (method ++ "]();".toList)) ++ after ∧
    ∀ b t a, text = b ++ t ++ a → IsConstruction slot t → before.length ≤ b.length

/-- The group of a construction reads the constructor. -/
theorem exists_encoder (isMatch : (constructionTerm slot).Matches m) :
    ∃ encoder method e, m.group? 1 = some e ∧ e.text = [encoder] ∧ encoder ≠ '\n' ∧
      IsSpan 1 25 method ∧
      m.whole.text = slot ++ '=' :: encoder :: '[' :: (method ++ "]();".toList) := by
  obtain ⟨marks, ⟨start, _, _, ⟨ahead, rfl⟩, ⟨stop, _, _, ⟨_, ⟨c, inLine, pass, rfl⟩, rfl⟩, behind,
    rfl⟩, rfl⟩, groups⟩ := isMatch.reads
  obtain rfl := behind.marks_eq_nil rfl
  obtain ⟨t, onward⟩ := behind.passes
  have parts := Describes.inOrder (.cons (Describes.text ['['])
    (.cons (span_describes (by decide : 1 ≤ 25)) (.cons (Describes.text "]();".toList) .nil)))
  obtain ⟨_, _, rfl, ⟨method, _, isSpan, ⟨_, _, rfl, rfl, rfl⟩, rfl⟩, rfl⟩ :=
    (parts stop t m.whole.stop onward).1 ⟨[], behind⟩
  have whole : m.whole.text = _ := ((ahead.trans pass).trans onward).extent_text
  refine ⟨c, method, ⟨start, stop⟩, (groups 0 Nat.zero_lt_one).trans (extent?_group 1 start stop []),
    pass.extent_text, (CharClass.contains_inLine c).1 inLine, isSpan, ?_⟩
  rw [whole]
  simp

theorem construction_locates (slot : Text) (pattern : Text) :
    (⟨name, pattern, constructionTerm slot⟩ : Locator).Locates (IsConstruction slot) :=
  (construction_describes slot).locates
    (Describes.canReadNothing_inOrder (by simp [canReadNothing]) _)

/-- What the construction is searched for with, if it is compiled. -/
theorem exists_pattern {l : Locator} (object : b.get? Identifier.mapObject = some slot)
    (compiled : construction.compile name b = .ok l) :
    ∃ pattern, construction.template.render b .escaped = .ok pattern ∧
      l = ⟨name, pattern, constructionTerm slot⟩ := by
  obtain ⟨pattern, standsFor⟩ := construction_standsFor object
  exact ⟨pattern, standsFor.rendered, standsFor.eq_of_compile compiled⟩

/-- Where a construction occurs, the leftmost one is found, and the group reads its constructor. -/
theorem exists_made {l : Locator} (object : b.get? Identifier.mapObject = some slot)
    (compiled : construction.compile name b = .ok l)
    (occurs : ∃ t, IsConstruction slot t ∧ t <:+: text) :
    ∃ m e encoder, l.first text = .ok m ∧ m.group? 1 = some e ∧ e.text = [encoder] ∧
      IsMadeBy slot text encoder := by
  obtain ⟨pattern, -, rfl⟩ := exists_pattern object compiled
  have locates := construction_locates slot pattern
  cases search : (⟨name, pattern, constructionTerm slot⟩ : Locator).first text with
  | error e =>
    obtain ⟨t, isConstruction, inside⟩ := occurs
    exact absurd inside ((locates.first_fails text).1 ⟨e, search⟩ t isConstruction)
  | ok m =>
    obtain ⟨encoder, method, e, group, isChar, line, isSpan, fragment⟩ :=
      exists_encoder (Locator.first_sound search).1
    obtain ⟨-, inside, before, pass, least⟩ := locates.first text m search
    refine ⟨m, e, encoder, rfl, group, isChar, line, before, method, m.whole.stop.after, isSpan, ?_,
      least⟩
    rw [← fragment, List.append_assoc, ← inside.after]
    exact pass.after

/-! ## The definition -/

/-- The code behind a definition. -/
def registrationCode (ns : Text) (encoder : Char) : Text :=
  ';' :: (ns ++ ".mapEncoder=".toList ++ [encoder, ';'])

/-- What the definition of a constructor is replaced by. -/
def registered (ns : Text) (encoder : Char) : Text :=
  definitionText [encoder] ++ registrationCode ns encoder

/-- The pattern that the definition is searched for with. -/
def definitionPattern (encoder : Char) : Text :=
  "function ".toList ++ (escape [encoder] ++ "\\(\\)\\\x7b\\\x7d".toList)

theorem compile_definition_of_char (bound : b.get? Identifier.mapEncoder = some [encoder]) :
    definition.compile name b =
      .ok ⟨name, definitionPattern encoder, Regex.text (definitionText [encoder])⟩ := by
  obtain ⟨pattern, standsFor⟩ := definition_standsFor bound
  have filled : definition.template.render b .escaped = _ :=
    Template.render_eq_fill (fun _ => [encoder]) (List.forall_mem_singleton.2 bound)
  obtain rfl : pattern = definitionPattern encoder :=
    Except.ok.inj (standsFor.rendered.symm.trans filled)
  have single : Text.utf8Size [encoder] ≤ 4 := Char.utf8Size_le_four encoder
  have fits := (isSized_definitionText [encoder]).fits (by omega)
  exact (standsFor.compile name).trans (Locator.checked_eq_ok fits)

theorem render_registration (bound : b.get? Bindings.namespaceName = some ns)
    (made : b.get? Identifier.mapEncoder = some [encoder]) :
    registration.render b .raw = .ok (registered ns encoder) := by
  have filled : registration.render b .raw = _ :=
    Template.render_eq_fill (fun name => if name = "ns" then ns else [encoder])
      (List.forall_mem_cons.2 ⟨made, List.forall_mem_singleton.2 bound⟩)
  have code : "(){};".toList = "()\x7b\x7d".toList ++ [';'] := rfl
  rw [filled]
  delta registered registrationCode definitionText
  simp only [registration, Template.fill, Segment.fill, Embedding.apply, List.flatMap_cons,
    List.flatMap_nil, List.append_assoc, List.append_nil, List.cons_append, List.nil_append,
    String.reduceEq, reduceIte, code]
  rfl

theorem definitionText_ne_nil (encoder : Text) : definitionText encoder ≠ [] := List.cons_ne_nil _ _

/-- The definition of a constructor begins with a word that begins nowhere inside it. -/
theorem isUnbordered_definition (encoder : Char) :
    Text.IsUnbordered (definitionText [encoder]) := by
  intro after
  have spelled : definitionText [encoder] = ['f', 'u', 'n', 'c', 't', 'i', 'o', 'n', ' ', encoder,
    '(', ')', '\x7b', '\x7d'] := rfl
  rw [spelled]
  simp [Text.count, List.isPrefixOf, Nat.add_comm]

/-! ## The rule -/

/-- Every definition is replaced, by a scanner for the definition alone. -/
theorem replaceAll_definition (ns text : Text) (encoder : Char) (pattern : Text) :
    ∃ out, (⟨name, pattern, Regex.text (definitionText [encoder])⟩ : Locator).replaceAll text
        (fun _ => .ok (registered ns encoder)) =
          .ok (out, Text.count (definitionText [encoder]) text) ∧
      Text.Substitutes (definitionText [encoder]) (registered ns encoder) text out := by
  let scanner := Scanner.literal _ (definitionText_ne_nil [encoder])
  have isText := Describes.text (definitionText [encoder])
  have locates : (⟨name, pattern, Regex.text (definitionText [encoder])⟩ : Locator).Locates
      (· = definitionText [encoder]) := isText.locates rfl
  have replaced : (⟨name, pattern, Regex.text (definitionText [encoder])⟩ : Locator).replaceAll text
      (fun _ => .ok (registered ns encoder)) =
        .ok (scanner.insertAfter (registrationCode ns encoder) text) := by
    refine locates.replaceAll_eq scanner fun m isMatch => ?_
    rw [isText.matches_text isMatch, registered]
  obtain ⟨substitutes, count⟩ := scanner.substitutes_insertAfter (isUnbordered_definition encoder)
    (registrationCode ns encoder) text
  refine ⟨(scanner.insertAfter (registrationCode ns encoder) text).1, ?_, substitutes⟩
  rw [replaced, ← count]

/-- The rule binds the constructor of the construction that is found first, and replaces its
definition. It fails if there is no definition to replace. -/
theorem apply_of_first {l : Locator} (compiled : construction.compile name b = .ok l)
    (found : l.first text = .ok m) {e : Extent} (group : m.group? 1 = some e)
    (isChar : e.text = [encoder]) (bound : b.get? Bindings.namespaceName = some ns) :
    ∃ out, Text.Substitutes (definitionText [encoder]) (registered ns encoder) text out ∧
      (apply text).on b =
        (if Text.count (definitionText [encoder]) text = 0 then
            .error (.patternNotFound name (definitionPattern encoder))
          else .ok { text := out, sites := Text.count (definitionText [encoder]) text },
          b.bind Identifier.mapEncoder [encoder]) := by
  have made : (b.bind Identifier.mapEncoder [encoder]).get? Identifier.mapEncoder =
      some [encoder] := Bindings.get?_bind_self
  have still : (b.bind Identifier.mapEncoder [encoder]).get? Bindings.namespaceName = some ns :=
    (Bindings.get?_bind_of_ne (by decide)).trans bound
  obtain ⟨out, replaced, substitutes⟩ :=
    replaceAll_definition ns text encoder (definitionPattern encoder)
  refine ⟨out, substitutes, ?_⟩
  rw [apply, on_get_andThen, compiled, on_ok_andThen, found, on_ok_andThen,
    Match.capture_eq_ok name group, on_ok_andThen, isChar, on_bind_name_andThen, on_get_andThen,
    compile_definition_of_char made, on_ok_andThen, render_registration still made, on_ok_andThen,
    replaced, on_ok_andThen]
  cases Text.count (definitionText [encoder]) text with
  | zero => rfl
  | succ sites => rfl

/-- Where no construction occurs, nothing is bound. -/
theorem apply_of_absent {l : Locator} (object : b.get? Identifier.mapObject = some slot)
    (compiled : construction.compile name b = .ok l)
    (absent : ∀ t, IsConstruction slot t → ¬ t <:+: text) : ∃ pattern,
      construction.template.render b .escaped = .ok pattern ∧
      (apply text).on b = (.error (.patternNotFound name pattern), b) := by
  obtain ⟨pattern, rendered, rfl⟩ := exists_pattern object compiled
  obtain ⟨e, search⟩ := ((construction_locates slot pattern).first_fails text).2 absent
  refine ⟨pattern, rendered, ?_⟩
  rw [apply, on_get_andThen, compiled, on_ok_andThen, search, Locator.first_error search]
  rfl

/-- Where the construction is not compiled, this is why the rule fails. -/
theorem apply_of_not_compiled {e : PatchError} (failed : construction.compile name b = .error e) :
    (apply text).on b = (.error e, b) := by
  rw [apply, on_get_andThen, failed]
  rfl

/-- What the rule does. If it succeeds, it binds the constructor of the leftmost construction and
replaces its definition in all places where this occurs. If the pattern for the construction is
compiled, as it is unless the slot is too long, and there is a construction, then the rule succeeds
just if the definition occurs, and else it fails with the pattern for the definition. -/
theorem replaces_definitions (bound : b.get? Bindings.namespaceName = some ns)
    (object : b.get? Identifier.mapObject = some slot) (text : Text) :
    (∀ o b', (rule.apply text).on b = (.ok o, b') → ∃ encoder, IsMadeBy slot text encoder ∧
      b' = b.bind Identifier.mapEncoder [encoder] ∧
      Text.Substitutes (definitionText [encoder]) (registered ns encoder) text o.text ∧
      o.sites = Text.count (definitionText [encoder]) text ∧ 1 ≤ o.sites) ∧
    (∀ l, construction.compile name b = .ok l →
      ((∃ t, IsConstruction slot t ∧ t <:+: text) → ∃ encoder, IsMadeBy slot text encoder ∧
        (definitionText [encoder] <:+: text → ∃ o, (rule.apply text).on b =
          (.ok o, b.bind Identifier.mapEncoder [encoder])) ∧
        (¬ definitionText [encoder] <:+: text → (rule.apply text).on b =
          (.error (.patternNotFound name (definitionPattern encoder)),
            b.bind Identifier.mapEncoder [encoder]))) ∧
      ((∀ t, IsConstruction slot t → ¬ t <:+: text) → ∃ pattern,
        construction.template.render b .escaped = .ok pattern ∧
        (rule.apply text).on b = (.error (.patternNotFound name pattern), b))) ∧
    (∀ e, construction.compile name b = .error e → (rule.apply text).on b = (.error e, b)) ∧
    (Text.utf8Size slot ≤ 318000 → ∃ l, construction.compile name b = .ok l) := by
  refine ⟨fun o b' run => ?_, fun l compiled => ⟨fun occurs => ?_,
    apply_of_absent object compiled⟩, fun e => apply_of_not_compiled, fun short => ?_⟩
  · cases compiled : construction.compile name b with
    | error e =>
      exact nomatch (Prod.mk.inj ((apply_of_not_compiled compiled).symm.trans run)).1
    | ok l =>
      by_cases occurs : ∃ t, IsConstruction slot t ∧ t <:+: text
      · obtain ⟨m, e, encoder, found, group, isChar, made⟩ := exists_made object compiled occurs
        obtain ⟨out, substitutes, result⟩ := apply_of_first compiled found group isChar bound
        obtain ⟨done, rfl⟩ := Prod.mk.inj (result.symm.trans run)
        split at done
        · contradiction
        · rename_i some
          obtain rfl := Except.ok.inj done
          exact ⟨encoder, made, rfl, substitutes, rfl, Nat.one_le_iff_ne_zero.2 some⟩
      · obtain ⟨pattern, -, failed⟩ := apply_of_absent object compiled
          fun t isConstruction inside => occurs ⟨t, isConstruction, inside⟩
        obtain ⟨never, -⟩ := Prod.mk.inj (failed.symm.trans run)
        contradiction
  · obtain ⟨m, e, encoder, found, group, isChar, made⟩ := exists_made object compiled occurs
    obtain ⟨out, -, result⟩ := apply_of_first compiled found group isChar bound
    have none : Text.count (definitionText [encoder]) text = 0 ↔ _ :=
      Text.count_eq_zero_iff (definitionText_ne_nil [encoder])
    refine ⟨encoder, made, fun inside => ?_, fun absent => ?_⟩
    · rw [if_neg fun zero => none.1 zero inside] at result
      exact ⟨_, result⟩
    · rw [if_pos (none.2 absent)] at result
      exact result
  · obtain ⟨pattern, standsFor⟩ := construction_standsFor object
    have fits := (isSized_constructionTerm slot).fits (by omega)
    exact ⟨_, (standsFor.compile name).trans (Locator.checked_eq_ok fits)⟩

/-! ## A sample -/

/-- A construction between two definitions of its constructor, whose name is special in patterns. -/
def sample : Text := "function $()\x7b\x7dabc[12]=$[T[1]]();function $()\x7b\x7d".toList

/-- The namespace, and the slot of the map. -/
def sampleBindings : Bindings :=
  (Bindings.seeded ['w']).bind Identifier.mapObject "abc[12]".toList

/-- Both definitions of the sample are replaced. -/
theorem replaces_definitions_sample :
    sampleBindings.get? Bindings.namespaceName = some ['w'] ∧
      sampleBindings.get? Identifier.mapObject = some "abc[12]".toList ∧
      ∃ o b', (rule.apply sample).on sampleBindings = (.ok o, b') ∧ o.sites = 2 ∧
        ∃ encoder, IsMadeBy "abc[12]".toList sample encoder ∧
          b' = sampleBindings.bind Identifier.mapEncoder [encoder] ∧
          Text.Substitutes (definitionText [encoder]) (registered ['w'] encoder) sample o.text ∧
          o.sites = Text.count (definitionText [encoder]) sample ∧ 1 ≤ o.sites := by
  have bound : sampleBindings.get? Bindings.namespaceName = some ['w'] := by decide
  have object : sampleBindings.get? Identifier.mapObject = some "abc[12]".toList := by decide
  obtain ⟨succeeds, -⟩ := replaces_definitions bound object sample
  have done : (((rule.apply sample).on sampleBindings).1.toOption.map (·.sites)) = some 2 := by
    simp only [rule, apply, Signature.compile, Locator.first, Locator.replaceAll,
      Regex.ofText_eq_evaluate, Regex.first?_eq_evaluate, Regex.allMatches_eq_evaluate]
    decide +kernel
  cases run : (rule.apply sample).on sampleBindings with
  | mk result b' =>
    rw [run] at done
    cases result with
    | error e => contradiction
    | ok o => exact ⟨bound, object, o, b', rfl, Option.some.inj done, succeeds o b' run⟩

end HookGraft.MapEncoder

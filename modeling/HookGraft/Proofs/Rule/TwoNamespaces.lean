import HookGraft.Proofs.Pattern.TwoTexts
import HookGraft.Proofs.Rule.ResetState
import Mathlib.Data.List.TakeWhile

/-!
# The rules under two namespaces

A rule decides by what it locates. If nothing that it looks at overlaps an occurrence of the
namespace with its dot, it does the same under another namespace: it fails with the same error, or
it rewrites as many fragments, binds the same identifiers and leaves a text with the same sketch.

## Main definitions

* `MapObject.sights`, `MapEncoder.sights`, and so on: what the rules look at
* `Rule.Unmoved`: a rule that does the same under two namespaces

## Main results

* `MapObject.rule_unmoved`, `MapEncoder.rule_unmoved`, and so on: the standard rules do the same
  under two namespaces
-/

namespace HookGraft

open Discovery

/-! ## Rules that do the same -/

/-- What a rule leaves under two namespaces if it does the same. -/
structure RuleOutcome.Alike (root root' : Text) (o : RuleOutcome) (b : Bindings) (o' : RuleOutcome)
    (b' : Bindings) : Prop where
  text : Sketch.Fills (root ++ ['.']) (root' ++ ['.']) o.text o'.text
  sites : o.sites = o'.sites
  bindings : b.Alike root root' b'

/-- A rule does the same under two namespaces, as long as nothing that it looks at in either text
overlaps an occurrence of the namespace with its dot. -/
def Rule.Unmoved (rule : Rule) (sights : Text → Bindings → List Extent) : Prop :=
  ∀ (root root' : Text) (T : Sketch) (b b' : Bindings), b.Alike root root' b' →
    (∀ e ∈ sights (T.fill (root ++ ['.'])) b, e.Avoids (root ++ ['.'])) →
    (∀ e ∈ sights (T.fill (root' ++ ['.'])) b', e.Avoids (root' ++ ['.'])) →
    Alike (rule.apply (T.fill (root ++ ['.']))) b (rule.apply (T.fill (root' ++ ['.']))) b'
      (RuleOutcome.Alike root root')

/-- The extents that a rule has come to, or none if it has failed before. -/
def sightsOf : Except PatchError (List Extent) → List Extent
  | .ok extents => extents
  | .error _ => []

/-- Where the first fragment lies, if there is one. -/
def Locator.firstSight (l : Locator) (text : Text) : List Extent :=
  (l.regex.first? text).toList.map Match.whole

/-- Where the fragments lie. -/
def Locator.allSights (l : Locator) (text : Text) : List Extent :=
  (l.regex.allMatches text).map Match.whole

/-- Where the first fragment of a signature lies, if it is compiled and there is one. -/
def Signature.firstSight (s : Signature) (rule : String) (b : Bindings) (text : Text) :
    List Extent :=
  sightsOf do return (← s.compile rule b).firstSight text

theorem mem_sightsOf {x : Except PatchError (List Extent)} {extents : List Extent} {e : Extent}
    (known : x = .ok extents) (member : e ∈ extents) : e ∈ sightsOf x := by
  rw [known]
  exact member

theorem marker_ne_nil (root : Text) : root ++ ['.'] ≠ [] :=
  List.append_ne_nil_of_right_ne_nil root nofun

section Signatures

variable {s : Signature} {rule name : String} {b : Bindings} {l : Locator}

theorem Signature.mem_firstSight {text : Text} {m : Match} (compiled : s.compile rule b = .ok l)
    (found : l.regex.first? text = some m) : m.whole ∈ s.firstSight rule b text := by
  refine mem_sightsOf (Except.bind_eq_ok.2 ⟨l, compiled, rfl⟩) ?_
  rw [Locator.firstSight, found]
  exact List.mem_singleton_self _

/-- If a signature is compiled, its parameters are bound. -/
theorem Signature.bound_of_compile (compiled : s.compile rule b = .ok l)
    (member : name ∈ s.template.parameters) : ∃ value, b.get? name = some value := by
  obtain ⟨pattern, rendered, -⟩ := Except.bind_eq_ok.1 compiled
  exact Template.bound_of_render rendered member

end Signatures

section Locate

variable {α : Type} {root root' : Text} {T : Sketch} {b b' : Bindings} {s : Signature}
  {rule : String} {R : α → Bindings → α → Bindings → Prop}

/-- The first fragment is located under two namespaces. -/
theorem Discovery.Alike.first {f f' : Match → Discovery α} (alike : b.Alike root root' b')
    (silent : Bindings.namespaceName ∉ s.template.parameters)
    (noLook : ∀ l, s.compile rule b = .ok l → l.regex.hasLook = false)
    (clear : ∀ e ∈ s.firstSight rule b (T.fill (root ++ ['.'])), e.Avoids (root ++ ['.']))
    (clear' : ∀ e ∈ s.firstSight rule b' (T.fill (root' ++ ['.'])), e.Avoids (root' ++ ['.']))
    (next : ∀ l m m', s.compile rule b = .ok l → l.first (T.fill (root ++ ['.'])) = .ok m →
      l.first (T.fill (root' ++ ['.'])) = .ok m' →
      m.Parallel (root ++ ['.']) (root' ++ ['.']) m' → Alike (f m) b (f' m') b' R) :
    Alike (do f (← (← s.compile rule b).first (T.fill (root ++ ['.'])))) b
      (do f' (← (← s.compile rule b').first (T.fill (root' ++ ['.'])))) b' R := by
  have same := Signature.compile_alike alike rule silent
  rw [same]
  refine .lift (Except.Alike.refl _).results ?_
  rintro l _ ⟨rfl, compiled, -⟩
  refine .lift (Locator.first_alike (noLook l compiled) (marker_ne_nil root) (marker_ne_nil root')
    (fun m found => clear _ (Signature.mem_firstSight compiled found))
    (fun m found => clear' _ (Signature.mem_firstSight (same.trans compiled) found))).results ?_
  rintro m m' ⟨parallel, found, found'⟩
  exact next l m m' compiled found found' parallel

end Locate

variable {root root' : Text} {b b' : Bindings}

/-! ## The map object -/

namespace MapObject

/-- The anchor, and all assignments to the slot that it names. -/
def sights (key : String) (text : Text) (b : Bindings) : List Extent :=
  (anchor key).firstSight name b text ++ sightsOf do
    let found ← (← (anchor key).compile name b).first text
    let slot ← MapAnchor.ofFragment name found.whole.text
    let bindings := (b.bind Identifier.mapObject slot.object).bind Identifier.mapContainer
      slot.container
    return (← assignment.compile name bindings).allSights text

theorem assignments_sighted {key : String} {text : Text} {l l' : Locator} {m : Match}
    {slot : MapAnchor} (compiled : (anchor key).compile name b = .ok l)
    (found : l.first text = .ok m) (apart : MapAnchor.ofFragment name m.whole.text = .ok slot)
    (compiled' : assignment.compile name ((b.bind Identifier.mapObject slot.object).bind
      Identifier.mapContainer slot.container) = .ok l') {n : Match}
    (member : n ∈ l'.regex.allMatches text) : n.whole ∈ sights key text b := by
  refine List.mem_append_right _ (mem_sightsOf ?_ (List.mem_map_of_mem member))
  refine Except.bind_eq_ok.2 ⟨l, compiled, Except.bind_eq_ok.2 ⟨m, found, ?_⟩⟩
  exact Except.bind_eq_ok.2 ⟨slot, apart, Except.bind_eq_ok.2 ⟨l', compiled', rfl⟩⟩

/-- An assignment is copied under both namespaces. -/
theorem copied_alike (alike : b.Alike root root' b') {m m' : Match}
    (parallel : m.Parallel (root ++ ['.']) (root' ++ ['.']) m') :
    Except.Alike (Sketch.Fills (root ++ ['.']) (root' ++ ['.']))
      (do copied.render (b.bind Identifier.fragment (← m.capture name 1)) .raw)
      (do copied.render (b'.bind Identifier.fragment (← m'.capture name 1)) .raw) := by
  rw [← parallel.capture name 1]
  refine (Except.Alike.refl _).andThen ?_
  rintro fragment _ rfl
  exact Template.render_alike (alike.bind Identifier.fragment fragment (by decide)) rfl

theorem rule_unmoved (key : String) : (rule key).Unmoved (sights key) := by
  intro root root' T b b' alike clear clear'
  have noLook : ∀ l, (anchor key).compile name b = .ok l → l.regex.hasLook = false := by
    intro l compiled
    rw [(anchor_standsFor key b).eq_of_compile compiled]
    rfl
  have silent : Bindings.namespaceName ∉ (anchor key).template.parameters := nofun
  refine .get (.first alike silent noLook (fun e first => clear e (List.mem_append_left _ first))
    (fun e first => clear' e (List.mem_append_left _ first)) ?_)
  intro l m m' compiled found found' parallel
  have sameText := parallel.whole.text_eq
  rw [← sameText]
  refine .lift (Except.Alike.refl _).results ?_
  rintro slot _ ⟨rfl, apart, -⟩
  have bound := (alike.bind Identifier.mapObject slot.object (by decide)).bind
    Identifier.mapContainer slot.container (by decide)
  have object : ((b.bind Identifier.mapObject slot.object).bind Identifier.mapContainer
      slot.container).get? Identifier.mapObject = some slot.object :=
    Bindings.get?_bind_bind (by decide)
  have same := Signature.compile_alike bound name
    (show Bindings.namespaceName ∉ assignment.template.parameters by decide)
  refine .bind (.bind (.get ?_))
  rw [same]
  refine .lift (Except.Alike.refl _).results ?_
  rintro l₁ _ ⟨rfl, compiled₁, -⟩
  obtain rfl := (assignment_standsFor object).eq_of_compile compiled₁
  have avoids : ∀ n ∈ (assignmentTerm slot.object).allMatches (T.fill (root ++ ['.'])),
      n.whole.Avoids (root ++ ['.']) := fun n member =>
    clear _ (assignments_sighted compiled found apart compiled₁ member)
  have avoids' : ∀ n ∈ (assignmentTerm slot.object).allMatches (T.fill (root' ++ ['.'])),
      n.whole.Avoids (root' ++ ['.']) := fun n member =>
    clear' _ (assignments_sighted ((Signature.compile_alike alike name silent).trans compiled)
      found' (sameText ▸ apart) (same.trans compiled₁) member)
  refine .lift (Locator.replaceAll_alike rfl ?_ (marker_ne_nil root) (marker_ne_nil root')
    avoids avoids' fun m m' parallel => copied_alike bound parallel) ?_
  · simp [assignmentTerm, assignmentParts, Regex.inOrder, Regex.canReadNothing]
  · rintro ⟨out, sites⟩ ⟨out', _⟩ ⟨fills, rfl⟩
    exact .check Iff.rfl rfl (.pure ⟨fills, rfl, bound⟩)

end MapObject

/-! ## The map encoder -/

namespace MapEncoder

/-- The construction of the map, and all definitions of its constructor. -/
def sights (text : Text) (b : Bindings) : List Extent :=
  construction.firstSight name b text ++ sightsOf do
    let found ← (← construction.compile name b).first text
    let encoder ← found.capture name 1
    let bindings := b.bind Identifier.mapEncoder encoder
    return (← definition.compile name bindings).allSights text

theorem definitions_sighted {text encoder : Text} {l l' : Locator} {m : Match}
    (compiled : construction.compile name b = .ok l) (found : l.first text = .ok m)
    (captured : m.capture name 1 = .ok encoder)
    (compiled' : definition.compile name (b.bind Identifier.mapEncoder encoder) = .ok l')
    {n : Match} (member : n ∈ l'.regex.allMatches text) : n.whole ∈ sights text b := by
  refine List.mem_append_right _ (mem_sightsOf ?_ (List.mem_map_of_mem member))
  refine Except.bind_eq_ok.2 ⟨l, compiled, Except.bind_eq_ok.2 ⟨m, found, ?_⟩⟩
  exact Except.bind_eq_ok.2 ⟨encoder, captured, Except.bind_eq_ok.2 ⟨l', compiled', rfl⟩⟩

theorem rule_unmoved : rule.Unmoved sights := by
  intro root root' T b b' alike clear clear'
  have noLook : ∀ l, construction.compile name b = .ok l → l.regex.hasLook = false := by
    intro l compiled
    obtain ⟨slot, object⟩ := Signature.bound_of_compile compiled (List.mem_singleton_self _)
    obtain ⟨pattern, standsFor⟩ := construction_standsFor object
    rw [standsFor.eq_of_compile compiled]
    rfl
  refine .get (.first alike (by decide) noLook
    (fun e first => clear e (List.mem_append_left _ first))
    (fun e first => clear' e (List.mem_append_left _ first)) ?_)
  intro l m m' compiled found found' parallel
  rw [← parallel.capture name 1]
  refine .lift (Except.Alike.refl _).results ?_
  rintro encoder _ ⟨rfl, captured, -⟩
  have bound := alike.bind Identifier.mapEncoder encoder (by decide)
  have same := Signature.compile_alike bound name
    (show Bindings.namespaceName ∉ definition.template.parameters by decide)
  refine .bind (.get ?_)
  rw [same]
  refine .lift (Except.Alike.refl _).results ?_
  rintro l₁ _ ⟨rfl, compiled₁, -⟩
  obtain ⟨pattern, standsFor⟩ := definition_standsFor
    (Bindings.get?_bind_self : (b.bind Identifier.mapEncoder encoder).get? _ = _)
  obtain rfl := standsFor.eq_of_compile compiled₁
  have rendered := Template.render_alike (t := registration) bound rfl
  have avoids : ∀ n ∈ (Regex.text (definitionText encoder)).allMatches
      (T.fill (root ++ ['.'])), n.whole.Avoids (root ++ ['.']) := fun n member =>
    clear _ (definitions_sighted compiled found captured compiled₁ member)
  have avoids' : ∀ n ∈ (Regex.text (definitionText encoder)).allMatches
      (T.fill (root' ++ ['.'])), n.whole.Avoids (root' ++ ['.']) := fun n member =>
    clear' _ (definitions_sighted ((Signature.compile_alike alike name (by decide)).trans compiled)
      found' ((parallel.capture name 1).symm.trans captured) (same.trans compiled₁) member)
  refine .lift rendered fun code code' fills => ?_
  refine .lift (Locator.replaceAll_alike rfl rfl (marker_ne_nil root) (marker_ne_nil root')
    avoids avoids' fun _ _ _ => .ok fills) ?_
  rintro ⟨out, sites⟩ ⟨out', _⟩ ⟨fills, rfl⟩
  exact .check Iff.rfl rfl (.pure ⟨fills, rfl, bound⟩)

end MapEncoder

/-! ## The reset routine -/

namespace ResetState

/-- The beginning of the reset routine. -/
def sights (text : Text) (b : Bindings) : List Extent := routine.firstSight name b text

/-- Code that is rendered under two namespaces, with the bindings left. -/
def Injected (root root' : Text) (code : Text) (b : Bindings) (code' : Text) (b' : Bindings) :
    Prop :=
  Sketch.Fills (root ++ ['.']) (root' ++ ['.']) code code' ∧ b.Alike root root' b'

/-- The code for one piece of the routine. -/
theorem inject_alike {name piece : String} {t : Template} (alike : b.Alike root root' b')
    (value : Text) (capability : String) (dotted : Template.isDotted t.segments = true)
    (other : name ≠ Bindings.namespaceName) (other' : piece ≠ Bindings.namespaceName) :
    Alike (do
      Discovery.bind name value
      t.render (((← get).bind piece value).bind "capability" capability.toList) .raw) b (do
      Discovery.bind name value
      t.render (((← get).bind piece value).bind "capability" capability.toList) .raw) b'
      (Injected root root') := by
  have bound := alike.bind name value other
  have rendered := Template.render_alike (t := t)
    ((bound.bind piece value other').bind "capability" capability.toList (by decide)) dotted
  exact .bind (.get (.last rendered fun code code' fills => ⟨fills, bound⟩))

/-- The code for all pieces of one kind. -/
theorem injectAll_alike {pieces : List (Text × String)} {inject : Text × String → Discovery Text}
    (alike : b.Alike root root' b')
    (each : ∀ piece b b', b.Alike root root' b' →
      Alike (inject piece) b (inject piece) b' (Injected root root')) :
    Alike (pieces.mapM inject) b (pieces.mapM inject) b'
      fun codes c codes' c' => Injected root root' codes.flatten c codes'.flatten c' :=
  (Alike.mapM (I := Bindings.Alike root root') alike fun piece _ => each piece).mono
    fun _ _ _ _ ⟨rendered, kept⟩ => ⟨.flatten rendered, kept⟩

theorem rule_unmoved (selection update : List String) :
    (ruleFor selection update).Unmoved sights := by
  intro root root' T b b' alike clear clear'
  have noLook : ∀ l, routine.compile name b = .ok l → l.regex.hasLook = false := by
    intro l compiled
    rw [← Except.ok.inj ((compile_routine name b).symm.trans compiled)]
    rfl
  refine .get (.first alike (by decide) noLook clear clear' ?_)
  intro _ m m' _ _ _ parallel
  rw [← parallel.whole.text_eq]
  refine .lift (Except.Alike.refl _) ?_
  rintro routine _ rfl
  refine .lift (Except.Alike.refl _) ?_
  rintro shape _ rfl
  refine .bind ?_
  have bound := alike.bind Identifier.resetRoutine routine (by decide)
  refine (injectAll_alike bound ?_).andThen ?_
  · rintro ⟨routine, capability⟩ b b' alike
    exact inject_alike alike routine capability rfl (update_ne (by decide) capability) (by decide)
  rintro wrappers c wrappers' c' ⟨wrapped, alike⟩
  refine (injectAll_alike alike ?_).andThen ?_
  · rintro ⟨slot, capability⟩ b b' alike
    exact inject_alike alike slot capability rfl (selection_ne (by decide) capability) (by decide)
  rintro accessors d accessors' d' ⟨accessed, alike⟩
  refine .pure ⟨parallel.whole.replace ?_, rfl, alike⟩
  exact ((Sketch.Fills.refl _).append (wrapped.append accessed)).append (.refl _)

end ResetState

/-! ## The undo history -/

namespace UndoHistory

/-- The beginning of the routine that saves a snapshot. -/
def sights (text : Text) (b : Bindings) : List Extent := routine.firstSight name b text

theorem rule_unmoved : rule.Unmoved sights := by
  intro root root' T b b' alike clear clear'
  have noLook : ∀ l, routine.compile name b = .ok l → l.regex.hasLook = false := by
    intro l compiled
    obtain ⟨container, boundContainer⟩ := Signature.bound_of_compile compiled (.head _)
    obtain ⟨object, boundObject⟩ := Signature.bound_of_compile compiled (.tail _ (.head _))
    obtain ⟨pattern, standsFor⟩ := routine_standsFor boundContainer boundObject
    rw [standsFor.eq_of_compile compiled]
    rfl
  refine .get (.first alike (by decide) noLook clear clear' ?_)
  intro _ m m' _ _ _ parallel
  rw [← parallel.whole.text_eq]
  refine .lift (Except.Alike.refl _) ?_
  rintro routine _ rfl
  have bound := alike.bind Identifier.undoRoutine routine (by decide)
  have rendered := Template.render_alike (t := registration)
    (bound.bind Identifier.fragment m.whole.text (by decide)) rfl
  refine .bind (.get (.lift rendered fun code code' fills => ?_))
  exact .pure ⟨parallel.whole.replace fills, rfl, bound⟩

end UndoHistory

/-! ## The chat listener -/

namespace ChatListener

/-- The call with what stands before it. -/
def sights (text : Text) (b : Bindings) : List Extent := unbinding.firstSight name b text

theorem rule_unmoved : rule.Unmoved sights := by
  intro root root' T b b' alike clear clear'
  have noLook : ∀ l, unbinding.compile name b = .ok l → l.regex.hasLook = false := by
    intro l compiled
    rw [← Except.ok.inj ((compile_unbinding name b).symm.trans compiled)]
    rfl
  refine .get (.first alike (by decide) noLook clear clear' ?_)
  intro _ m m' _ _ _ parallel
  refine .lift (show Except.Alike _ (m.keepOnly name 1) (m'.keepOnly name 1) from ?_)
    fun text text' fills => .pure ⟨fills, rfl, alike⟩
  rw [Match.keepOnly, Match.keepOnly, ← parallel.capture name 1]
  refine (Except.Alike.refl _).andThen ?_
  rintro kept _ rfl
  exact .ok (parallel.whole.replace (.refl _))

end ChatListener

/-! ## The colour picker -/

namespace ColourPicker

/-- What follows a match, up to the end of the first helper. -/
def reach (m : Match) : Text :=
  match Text.cutFirst? helper m.whole.stop.after with
  | some (between, _) => between ++ helper
  | none => []

/-- All pickers, each of those that the helper follows together with what lies up to its end. -/
def sights (text : Text) (_ : Bindings) : List Extent :=
  (pickerTerm.allMatches text).map fun m =>
    if helperFollows m then m.whole.append (reach m) else m.whole

/-- Whether a character stands on a line. -/
def inLine (c : Char) : Bool := c != '\n' && c != '\r'

/-- The helper follows a match if it stands on the rest of the line, soon enough. -/
theorem helperFollows_of_append {m : Match} {between rest : Text}
    (behind : m.whole.stop.after = between ++ helper ++ rest)
    (line : ∀ c ∈ between ++ helper, inLine c = true)
    (near : (between ++ helper).length ≤ window + helper.length) : helperFollows m = true := by
  rw [helperFollows, Text.hasInfix_iff, behind]
  show helper <:+: ((between ++ helper ++ rest).takeWhile inLine).take _
  rw [List.takeWhile_append_of_pos line]
  have first := List.prefix_take_iff.2 ⟨List.prefix_append (between ++ helper)
    (rest.takeWhile inLine), near⟩
  exact (List.suffix_append between helper).isInfix.trans first.isInfix

/-- If the helper follows a match, what lies up to the first one stands on the rest of the line. -/
theorem reach_of_helperFollows {m : Match} (follows : helperFollows m = true) :
    ∃ between rest, reach m = between ++ helper ∧
      m.whole.stop.after = between ++ helper ++ rest ∧
      (∀ c ∈ between ++ helper, inLine c = true) ∧
      (between ++ helper).length ≤ window + helper.length := by
  rw [helperFollows, Text.hasInfix_iff] at follows
  obtain ⟨before, more, split⟩ := follows
  obtain ⟨start, near⟩ := List.prefix_take_iff.1 ⟨more, split⟩
  have line : ∀ c ∈ before ++ helper, inLine c = true := fun c member =>
    List.mem_takeWhile_imp (start.subset member)
  obtain ⟨behind, occurs⟩ := start.trans (List.takeWhile_prefix _)
  obtain ⟨⟨between, rest⟩, cut⟩ := Option.isSome_iff_exists.1
    (occurs ▸ Text.isSome_cutFirst? helper before behind)
  obtain ⟨whole, least⟩ := Text.cutFirst?_eq_some_iff.1 cut
  have first : between ++ helper <+: before ++ helper := by
    refine List.prefix_of_prefix_length_le ⟨rest, whole.symm⟩ ⟨behind, occurs⟩ ?_
    have := least before behind occurs.symm
    simpa using this
  refine ⟨between, rest, ?_, whole, fun c member => line c (first.subset member),
    Nat.le_trans first.length_le near⟩
  rw [reach, cut]

/-- A picker that the helper follows in one text is followed by it in the other one. -/
theorem helperFollows_of_twins {part part' t : Text} {B A : Sketch} {m m' : Match}
    (twins : Sketch.Twins part part' B t A m m') (proper : part ≠ [])
    (avoids : helperFollows m = true → (m.whole.append (reach m)).Avoids part)
    (follows : helperFollows m = true) : helperFollows m' = true := by
  obtain ⟨between, rest, reached, behind, line, near⟩ := reach_of_helperFollows follows
  obtain ⟨rest', behind'⟩ := twins.follows proper behind (reached ▸ avoids follows)
  exact helperFollows_of_append behind' line near

theorem avoids_of_sights {part text : Text} (clear : ∀ e ∈ sights text b, e.Avoids part) :
    (∀ m ∈ pickerTerm.allMatches text, m.whole.Avoids part) ∧
      ∀ m ∈ pickerTerm.allMatches text, helperFollows m = true →
        (m.whole.append (reach m)).Avoids part := by
  have each : ∀ m ∈ pickerTerm.allMatches text,
      (if helperFollows m then m.whole.append (reach m) else m.whole).Avoids part :=
    fun m member => clear _ (List.mem_map_of_mem member)
  constructor
  · intro m member
    have here := each m member
    split at here
    · exact here.of_append
    · exact here
  · intro m member follows
    have here := each m member
    rwa [if_pos follows] at here

theorem rule_unmoved (inputId : String) : (rule inputId).Unmoved sights := by
  intro root root' T b b' alike clear clear'
  obtain ⟨avoids, reaches⟩ := avoids_of_sights clear
  obtain ⟨avoids', reaches'⟩ := avoids_of_sights clear'
  refine .get ?_
  rw [compile_picker, compile_picker]
  refine .lift (Except.Alike.refl _).results ?_
  rintro _ _ ⟨rfl, ⟨⟩, -⟩
  refine .lift (Locator.unique_alike (by decide) (by decide) (marker_ne_nil root)
    (marker_ne_nil root') avoids avoids' fun m member m' member' B t A twins => ?_) ?_
  · exact Bool.eq_iff_iff.2
      ⟨helperFollows_of_twins twins (marker_ne_nil root) (reaches m member),
        helperFollows_of_twins twins.symm (marker_ne_nil root') (reaches' m' member')⟩
  intro m m' parallel
  rw [← parallel.capture name 2, ← parallel.capture name 3]
  refine .lift (Except.Alike.refl _) ?_
  rintro key _ rfl
  refine .lift (Except.Alike.refl _) ?_
  rintro inner _ rfl
  refine .lift (parallel.captureSpan name 3) fun span span' same => ?_
  have bound := alike.bind Identifier.colourPickerKey key (by decide)
  have rendered := Template.render_alike (t := body)
    ((bound.bind Identifier.fragment inner (by decide)).bind colourInput inputId.toList
      (by decide)) rfl
  refine .bind (.get (.lift rendered fun code code' fills => ?_))
  exact .pure ⟨same.replace fills, rfl, bound⟩

end ColourPicker

end HookGraft

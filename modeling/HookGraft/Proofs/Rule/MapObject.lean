import HookGraft.Proofs.Pattern.InPlace
import HookGraft.Proofs.Rule.Basic
import HookGraft.Settings.Basic

/-!
# What the map object rule does

The rule binds the slot of the map and its container. It copies what is assigned to the slot and
loses nothing. If the key before the slot is an identifier, the anchor always comes apart.

## Main definitions

* `MapObject.IsAnchor`: the shape of an anchor

## Main results

* `MapObject.anchor_describes`: what an anchor looks like
* `MapObject.IsAnchor.ofFragment`: an anchor comes apart
* `MapObject.apply_meets`: the specification of the rule
-/

namespace HookGraft.MapObject

open Discovery

/-! ## The anchor -/

/-- A key, a colon, and a slot: three letters or digits, and a number in brackets. -/
def IsAnchor (key fragment : Text) : Prop :=
  ∃ container index, container.length = 3 ∧ (∀ c ∈ container, c.isAlphanum = true) ∧
    index ≠ [] ∧ (∀ c ∈ index, CharClass.digit.contains c = true) ∧
      fragment = key ++ ':' :: (container ++ '[' :: (index ++ [']']))

theorem contains_alphanum (c : Char) :
    CharClass.contains ⟨[(48, 57), (65, 90), (97, 122)]⟩ c = c.isAlphanum := by
  have ranges : c.isAlphanum = (decide (65 ≤ c.val ∧ c.val ≤ 90) ||
      (97 ≤ c.val && c.val ≤ 122) || (48 ≤ c.val && c.val ≤ 57)) := by rfl
  rw [ranges, Bool.eq_iff_iff]
  simp only [CharClass.contains, Unicode.RangeTable.contains, Unicode.RangeTable.containsCode,
    Bool.or_eq_true, Bool.and_eq_true, decide_eq_true_iff, UInt32.le_iff_toNat_le, ← Char.toNat_val]
  grind

theorem anchor_describes (key : Text) : (anchorTerm key).Describes (IsAnchor key) := by
  have container := Regex.Describes.repeated_char
    ⟨[(48, 57), (65, 90), (97, 122)]⟩ 3 (some 3) true
  have index := Regex.Describes.repeated_char .digit 1 none true
  have parts := Regex.Describes.inOrder
    (.cons (Regex.Describes.text (key ++ [':'])) (.cons container
      (.cons (Regex.Describes.text ['[']) (.cons index
        (.cons (Regex.Describes.text [']']) .nil)))))
  refine parts.congr fun t => ?_
  simp only [Joined, contains_alphanum]
  constructor
  · rintro ⟨_, _, rfl, ⟨container, _, ⟨least, most, letters⟩, ⟨_, _, rfl, ⟨index, _,
      ⟨some, -, digits⟩, ⟨_, _, rfl, rfl, rfl⟩, rfl⟩, rfl⟩, rfl⟩, rfl⟩
    exact ⟨container, index, Nat.le_antisymm (most 3 rfl) least, letters, List.length_pos_iff.1 some,
      digits, by simp⟩
  · rintro ⟨container, index, three, letters, some, digits, rfl⟩
    refine ⟨_, _, rfl, ⟨container, _, ⟨three.ge, ?_, letters⟩, ⟨_, _, rfl, ⟨index, _,
      ⟨List.length_pos_iff.2 some, ?_, digits⟩, ⟨_, _, rfl, rfl, rfl⟩, rfl⟩, rfl⟩, rfl⟩, by simp⟩
    · rintro most ⟨⟩
      exact three.le
    · rintro most ⟨⟩

theorem alphanum_of_isIdentifier {t : Text} (identifier : isIdentifier t = true) {c : Char}
    (member : c ∈ t) : (c.isAlphanum || c == '_') = true := by
  cases t with
  | nil => contradiction
  | cons d rest =>
    simp only [isIdentifier, Bool.and_eq_true, List.all_eq_true] at identifier
    rcases List.mem_cons.1 member with rfl | inside
    · rw [Char.isAlphanum, Bool.or_right_comm, identifier.1, Bool.true_or]
    · exact identifier.2 c inside

/-- The anchor of a key that is an identifier comes apart into the slot behind the colon, and its first
three characters. -/
theorem IsAnchor.ofFragment {key fragment : Text} (rule : String)
    (identifier : isIdentifier key = true) (h : IsAnchor key fragment) :
    MapAnchor.ofFragment rule fragment = .ok {
      object := fragment.drop (key.length + 1)
      container := (fragment.drop (key.length + 1)).take 3 } := by
  obtain ⟨container, index, three, letters, -, digits, rfl⟩ := h
  have slot : (key ++ ':' :: (container ++ '[' :: (index ++ [']']))).drop (key.length + 1) =
      container ++ '[' :: (index ++ [']']) := by
    rw [← List.drop_drop, List.drop_left]
    rfl
  have plain : ':' ∉ key := fun member =>
    absurd (alphanum_of_isIdentifier identifier member) (by decide)
  have noColon : ':' ∉ container := fun member => absurd (letters ':' member) (by decide)
  have noBracket : '[' ∉ container := fun member => absurd (letters '[' member) (by decide)
  have number : ':' ∉ index := fun member => absurd (digits ':' member) (by decide)
  have single : ':' ∉ container ++ '[' :: (index ++ [']']) := by
    simp [noColon, number]
  have name := Text.headBefore_append_cons (index ++ [']']) noBracket
  have proper : ¬ (container.isEmpty = true ∨
      container.length = (container ++ '[' :: (index ++ [']'])).length) := by
    simp only [List.isEmpty_iff_length_eq_zero, List.length_append, List.length_cons]
    omega
  rw [slot, ← three, List.take_left, MapAnchor.ofFragment, Text.pieces_append_cons plain,
    Text.pieces_of_not_mem single]
  simp only [name, proper, if_false]

/-- An anchor that does not come apart has changed its shape. -/
theorem ofFragment_error {rule : String} {fragment : Text} {e : PatchError}
    (h : MapAnchor.ofFragment rule fragment = .error e) : e.isFormatDrift = true := by
  simp only [MapAnchor.ofFragment] at h
  split at h
  · split at h
    · obtain rfl := Except.error.inj h
      rfl
    · contradiction
  · obtain rfl := Except.error.inj h
    rfl

/-! ## The rule -/

theorem parameters_copied : copied.parameters = ["fragment", "ns", "map_object"] := by rfl

/-- What may go wrong with the fragments that the rule looks for. Only a key that is no identifier
can lead to an anchor that does not come apart. -/
def Drift (key : String) (e : PatchError) : Prop :=
  (rule key).NotFound e ∨ (isIdentifier key.toList = false ∧ e.isFormatDrift = true)

/-- An assignment is part of the code that it is replaced by. -/
theorem copied_kept {slot new : Text} {b : Bindings} {m : Match}
    (found : (assignmentTerm slot).Matches m)
    (rendered : (do
      let fragment ← m.capture name 1
      copied.render (b.bind Identifier.fragment fragment) .raw) = .ok new) :
    m.whole.text.Sublist new := by
  rw [Match.capture_eq_ok name (found.group_whole rfl)] at rendered
  have speaks : Identifier.fragment ∈ copied.parameters := by
    rw [parameters_copied]
    decide
  exact (Template.infix_of_render rendered speaks Bindings.get?_bind_self).sublist

/-- The rule binds the slot and its container, and loses nothing of the text. -/
theorem apply_meets (key : String) (text : Text) (b : Bindings) :
    Meets (apply key text) b
      (fun o b' => b.Gains [Identifier.mapObject, Identifier.mapContainer] b' ∧
        text.Sublist o.text)
      (fun e b' => b.Extends (rule key).produces b' ∧
        (Drift key e ∨ (rule key).Oversized e ∨ (rule key).Unbound b e)) := by
  refine .get (Rule.meets_compile (rule key) (anchor_standsFor key b) rfl (by simp [rule])
    (fun e large => ⟨.refl _ b, .inr (.inl large)⟩) (.lift (fun found search => ?_) ?_))
  · refine .lift (fun slot apart => .bind (.bind (.get ?_))) ?_
    · have object : ((b.bind Identifier.mapObject slot.object).bind Identifier.mapContainer
          slot.container).get? Identifier.mapObject = some slot.object :=
        Bindings.get?_bind_bind (by decide)
      have gained : b.Gains [Identifier.mapObject, Identifier.mapContainer]
          ((b.bind Identifier.mapObject slot.object).bind Identifier.mapContainer slot.container) :=
        (Bindings.Gains.single b Identifier.mapObject slot.object).bind Identifier.mapContainer
          slot.container
      have changed := gained.frame (rule key).produces (List.Subset.refl _)
      refine Rule.meets_compile (rule key) (assignment_standsFor object) rfl
        (by simp [rule]) (fun e large => ⟨changed, .inr (.inl large)⟩)
        (.lift (fun (out, sites) replaced => ?_) fun e failed => ?_)
      · refine .check (fun _ => ⟨changed, .inl (.inl ⟨_, rfl⟩)⟩) (.pure ⟨gained, ?_⟩)
        exact Locator.replaceAll_sublist (fun m isMatch new => copied_kept isMatch) replaced
      · obtain ⟨m, isMatch, unrendered⟩ := Locator.replaceAll_error failed
        rw [Match.capture_eq_ok name (isMatch.group_whole rfl)] at unrendered
        refine ⟨changed, .inr (.inr (Rule.unbound_of_render (t := copied) unrendered
          (by simp [rule]) ?_ ?_))⟩
        · exact List.Subset.trans changed.subset (Bindings.names_subset_bind _ _)
        · rw [parameters_copied]
          simp [rule, Identifier.fragment, Identifier.mapObject, Identifier.mapContainer]
    · intro e failed
      refine ⟨.refl _ b, .inl ?_⟩
      have isAnchor := (anchor_describes key.toList).matches_text (Locator.first_sound search).1
      cases identifier : isIdentifier key.toList with
      | false => exact .inr ⟨identifier, ofFragment_error failed⟩
      | true =>
        rw [isAnchor.ofFragment name identifier] at failed
        contradiction
  · exact fun e failed => ⟨.refl _ b, .inl (.inl (Rule.notFound_of_first failed rfl))⟩

end HookGraft.MapObject

import HookGraft.Proofs.Pattern.Signature
import HookGraft.Proofs.Regex.Shape

/-!
# Bound values in fragments

Whatever the parameters of a signature are bound to, what it locates has a shape in which each bound
value stands as it is, in the place of its parameter, and every text of this shape is located. Only
values that are too long make a pattern that is too large.

## Main definitions

* `Locator.Locates`: a locator for the texts of a shape
* `Signature.LocatesWithin`: a signature for the texts of a shape, if its values are not too long
* `IsAssignment`, `IsConstruction`, `IsDefinition`, `IsSnapshot`: the shapes of the signatures

## Main results

* `Regex.Describes.locates`: the locator of a term that stands for a shape
* `Signature.located_in_place`: what the signatures with parameters locate
-/

namespace HookGraft

open Regex

/-! ## Classes -/

/-- A class of two ranges around a character has all characters but this one. -/
theorem CharClass.contains_iff_ne {k : CharClass} {d : Char} (pos : 0 < d.toNat)
    (around : k.ranges = [(0, d.toNat - 1), (d.toNat + 1, Unicode.lastCode)]) (c : Char) :
    k.contains c = true ↔ c ≠ d := by
  have valid : c.toNat < 0xd800 ∨ 0xdfff < c.toNat ∧ c.toNat < 0x110000 := c.valid
  have last : c.toNat ≤ Unicode.lastCode := by simp only [Unicode.lastCode]; omega
  have same : c = d ↔ c.toNat = d.toNat := Char.toNat_inj.symm
  rw [contains, Unicode.RangeTable.contains, around, ne_eq, same]
  simp only [Unicode.RangeTable.containsCode]
  split <;> simp <;> omega

theorem CharClass.contains_inLine (c : Char) : CharClass.inLine.contains c = true ↔ c ≠ '\n' :=
  contains_iff_ne (by decide) rfl c

theorem CharClass.contains_notSemicolon (c : Char) :
    (CharClass.complement (.one ';')).contains c = true ↔ c ≠ ';' :=
  contains_iff_ne (by decide) rfl c

/-- A text of characters of a kind that excludes just one. -/
theorem forall_mem_ne_iff {t : Text} {d : Char} {kind : Char → Bool}
    (members : ∀ c, kind c = true ↔ c ≠ d) : (∀ c ∈ t, kind c = true) ↔ d ∉ t := by
  simp only [members]
  exact ⟨fun others inside => others d inside rfl, fun absent c inside same => absent (same ▸ inside)⟩

/-! ## Shapes -/

/-- From `least` to `most` characters of one line. -/
structure IsSpan (least most : Nat) (t : Text) : Prop where
  least_le : least ≤ t.length
  le_most : t.length ≤ most
  inLine : '\n' ∉ t

/-- One to three decimal digits. -/
structure IsIndex (t : Text) : Prop where
  one_le : 1 ≤ t.length
  le_three : t.length ≤ 3
  digits : ∀ c ∈ t, CharClass.digit.contains c = true

/-- An assignment to a slot, up to the next semicolon. -/
def IsAssignment (slot fragment : Text) : Prop :=
  ∃ value, value ≠ [] ∧ ';' ∉ value ∧ fragment = slot ++ '=' :: (value ++ [';'])

/-- A slot is assigned a map that a constructor with a name of one character makes. -/
def IsConstruction (slot fragment : Text) : Prop :=
  ∃ constructor method, constructor ≠ '\n' ∧ IsSpan 1 25 method ∧
    fragment = slot ++ '=' :: constructor :: '[' :: (method ++ "]();".toList)

/-- The definition of a constructor. -/
def IsDefinition (encoder fragment : Text) : Prop :=
  fragment = "function ".toList ++ (encoder ++ "()\x7b\x7d".toList)

/-- A routine that trims a list in a container, stores a call in another one, and serializes the
slot with it. -/
def IsSnapshot (container slot fragment : Text) : Prop :=
  ∃ name before trimmed stored call key, IsSpan 3 3 name ∧ IsSpan 1 150 before ∧
    IsIndex trimmed ∧ IsIndex stored ∧ IsSpan 1 40 call ∧ IsSpan 1 40 key ∧
      fragment = [
        "function ".toList, name, "()\x7b".toList, before, container, ['['], trimmed,
        "]--;\x7d".toList, container, ['['], stored, [']'], call, "](JSON[".toList, key,
        "](".toList, slot, [')']].flatten

/-! ## The terms of the signatures -/

namespace Regex

theorem span_describes {least most : Nat} (le : least ≤ most) :
    (span least most).Describes (IsSpan least most) := by
  refine (Describes.repeated_char _ least (some most) true).congr fun t => ?_
  rw [forall_mem_ne_iff CharClass.contains_inLine]
  simp only [Option.some.injEq, forall_eq', Nat.max_eq_right le]
  exact ⟨fun ⟨least_le, le_most, inLine⟩ => ⟨least_le, le_most, inLine⟩,
    fun h => ⟨h.least_le, h.le_most, h.inLine⟩⟩

/-- One character of a line. -/
theorem dot_describes : (char .inLine).Describes fun t => ∃ c, c ≠ '\n' ∧ t = [c] :=
  (Describes.char .inLine).congr fun t => by simp only [CharClass.contains_inLine]

end Regex

theorem MapObject.assignment_describes (slot : Text) :
    (assignmentTerm slot).Describes (IsAssignment slot) := by
  have value := Describes.repeated_char (.complement (.one ';')) 1 none true
  have parts := Describes.inOrder
    (.cons (Describes.text (slot ++ ['='])) (.cons value (.cons (Describes.text [';']) .nil)))
  refine (parts.group 1).congr fun t => ?_
  simp only [Joined, forall_mem_ne_iff CharClass.contains_notSemicolon]
  constructor
  · rintro ⟨_, _, rfl, ⟨value, _, ⟨some, -, plain⟩, ⟨_, _, rfl, rfl, rfl⟩, rfl⟩, rfl⟩
    exact ⟨value, List.length_pos_iff.1 some, plain, by simp⟩
  · rintro ⟨value, some, plain, rfl⟩
    refine ⟨slot ++ ['='], value ++ [';'], rfl,
      ⟨value, [';'], ⟨List.length_pos_iff.2 some, ?_, plain⟩, ⟨_, _, rfl, rfl, rfl⟩, rfl⟩, by simp⟩
    rintro most ⟨⟩

theorem MapEncoder.construction_describes (slot : Text) :
    (constructionTerm slot).Describes (IsConstruction slot) := by
  have parts := Describes.inOrder
    (.cons (Describes.text (slot ++ ['='])) (.cons (dot_describes.group 1)
      (.cons (Describes.text ['[']) (.cons (span_describes (by decide : 1 ≤ 25))
        (.cons (Describes.text "]();".toList) .nil)))))
  refine parts.congr fun t => ?_
  constructor
  · rintro ⟨_, _, rfl, ⟨_, _, ⟨constructor, line, rfl⟩, ⟨_, _, rfl, ⟨method, _, span,
      ⟨_, _, rfl, rfl, rfl⟩, rfl⟩, rfl⟩, rfl⟩, rfl⟩
    exact ⟨constructor, method, line, span, by simp⟩
  · rintro ⟨constructor, method, line, span, rfl⟩
    exact ⟨_, _, rfl, ⟨_, _, ⟨constructor, line, rfl⟩, ⟨_, _, rfl, ⟨method, _, span,
      ⟨_, _, rfl, rfl, rfl⟩, rfl⟩, rfl⟩, rfl⟩, by simp⟩

theorem MapEncoder.definition_describes (encoder : Text) :
    (text (definitionText encoder)).Describes (IsDefinition encoder) :=
  Describes.text (definitionText encoder)

theorem UndoHistory.index_describes : index.Describes IsIndex := by
  refine (Describes.repeated_char .digit 1 (some 3) true).congr fun t => ?_
  simp only [Option.some.injEq, forall_eq']
  exact ⟨fun ⟨one_le, le_three, digits⟩ => ⟨one_le, le_three, digits⟩,
    fun h => ⟨h.one_le, h.le_three, h.digits⟩⟩

theorem UndoHistory.routine_describes (container slot : Text) :
    (routineTerm container slot).Describes (IsSnapshot container slot) := by
  have parts := Describes.inOrder
    (.cons (Describes.text "function ".toList) (.cons dot_describes (.cons dot_describes
      (.cons dot_describes (.cons (Describes.text "()\x7b".toList)
        (.cons (span_describes (by decide : 1 ≤ 150))
          (.cons (Describes.text (container ++ ['['])) (.cons index_describes
            (.cons (Describes.text ("]--;\x7d".toList ++ (container ++ ['['])))
              (.cons index_describes (.cons (Describes.text [']'])
                (.cons (span_describes (by decide : 1 ≤ 40))
                  (.cons (Describes.text "](JSON[".toList)
                    (.cons (span_describes (by decide : 1 ≤ 40))
                      (.cons (Describes.text ("](".toList ++ (slot ++ [')']))) .nil)))))))))))))))
  refine parts.congr fun t => ?_
  constructor
  · rintro ⟨_, _, rfl, ⟨_, _, ⟨c, line, rfl⟩, ⟨_, _, ⟨d, line', rfl⟩, ⟨_, _, ⟨e, line'', rfl⟩,
      ⟨_, _, rfl, ⟨before, _, gap, ⟨_, _, rfl, ⟨trimmed, _, first, ⟨_, _, rfl, ⟨stored, _, second,
      ⟨_, _, rfl, ⟨call, _, called, ⟨_, _, rfl, ⟨key, _, keyed, ⟨_, _, rfl, rfl, rfl⟩, rfl⟩, rfl⟩,
      rfl⟩, rfl⟩, rfl⟩, rfl⟩, rfl⟩, rfl⟩, rfl⟩, rfl⟩, rfl⟩, rfl⟩, rfl⟩, rfl⟩
    refine ⟨[c, d, e], before, trimmed, stored, call, key,
      ⟨Nat.le_refl 3, Nat.le_refl 3, by simp [line.symm, line'.symm, line''.symm]⟩, gap, first, second,
      called, keyed, by simp⟩
  · rintro ⟨name, before, trimmed, stored, call, key, three, gap, first, second, called, keyed, rfl⟩
    obtain ⟨c, d, e, rfl⟩ := List.length_eq_three.1 (Nat.le_antisymm three.le_most three.least_le)
    obtain ⟨line, line', line''⟩ : c ≠ '\n' ∧ d ≠ '\n' ∧ e ≠ '\n' := by
      simpa [eq_comm] using three.inLine
    exact ⟨_, _, rfl, ⟨_, _, ⟨c, line, rfl⟩, ⟨_, _, ⟨d, line', rfl⟩, ⟨_, _, ⟨e, line'', rfl⟩,
      ⟨_, _, rfl, ⟨before, _, gap, ⟨_, _, rfl, ⟨trimmed, _, first, ⟨_, _, rfl, ⟨stored, _, second,
      ⟨_, _, rfl, ⟨call, _, called, ⟨_, _, rfl, ⟨key, _, keyed, ⟨_, _, rfl, rfl, rfl⟩, rfl⟩, rfl⟩,
      rfl⟩, rfl⟩, rfl⟩, rfl⟩, rfl⟩, rfl⟩, rfl⟩, rfl⟩, rfl⟩, rfl⟩, rfl⟩, by simp⟩

/-! ## What is located -/

/-- A locator for the texts of a shape. The first fragment is the leftmost of these, all fragments
are those from left to right that do not overlap, and none is found just if none occurs. -/
structure Locator.Locates (l : Locator) (shape : Text → Prop) : Prop where
  first : ∀ text m, l.first text = .ok m → m.IsLeftmost shape (Cursor.start text)
  first_fails : ∀ text, (∃ e, l.first text = .error e) ↔ ∀ t, shape t → ¬ t <:+: text
  all : ∀ text, Fragments shape (Cursor.start text) (l.regex.allMatches text)

/-- The locator of a term that stands for a shape. -/
theorem Regex.Describes.locates {l : Locator} {shape : Text → Prop} (h : l.regex.Describes shape)
    (proper : l.regex.canReadNothing = false) : l.Locates shape where
  first text m found := by
    rw [Locator.first] at found
    split at found
    · rename_i m' search
      obtain rfl := Except.ok.inj found
      exact h.first? search
    · contradiction
  first_fails text := by
    rw [← h.first?_eq_none_iff, Locator.first]
    split
    · rename_i m search
      simp [search]
    · rename_i search
      simp [search]
  all text := h.fragments proper

namespace Signature

/-- A signature for the texts of a shape. It is compiled unless its pattern is too large, for which
the values in it, `size` bytes in all, need more than `most` bytes and more than 327680 are
enough. -/
structure LocatesWithin (s : Signature) (rule : String) (b : Bindings) (size most : Nat)
    (shape : Text → Prop) (l : Locator) : Prop where
  compiled : s.compile rule b = l.checked
  fits : size ≤ most → s.compile rule b = .ok l
  exceeds : 327680 < size → s.compile rule b = .error (.invalidPattern rule l.pattern .tooLarge)
  locates : l.Locates shape

/-- A signature whose term stands for a shape, with values that are texts in it. -/
theorem locatesWithin {s : Signature} {rule : String} {b : Bindings} {pattern : Text} {r : Regex}
    {size rest most : Nat} {shape : Text → Prop}
    (standsFor : s.StandsFor b pattern r)
    (describes : r.Describes shape) (proper : r.canReadNothing = false)
    (sized : r.IsSized size rest) (room : 32 * most + rest ≤ 10485552) :
    s.LocatesWithin rule b size most shape ⟨rule, pattern, r⟩ where
  compiled := standsFor.compile rule
  fits few := (standsFor.compile rule).trans (Locator.checked_eq_ok (sized.fits (by omega)))
  exceeds many := (standsFor.compile rule).trans (Locator.checked_eq_error (sized.exceeds many))
  locates := describes.locates proper

/-- Whatever the slot of the map, its container and its encoder are bound to, what the signatures
that speak of them locate are the texts of one shape each, in which the bound values stand as they
are. The signatures are compiled unless these values are too long. -/
theorem located_in_place (rule : String) {b : Bindings} {slot container encoder : Text}
    (boundSlot : b.get? Identifier.mapObject = some slot)
    (boundContainer : b.get? Identifier.mapContainer = some container)
    (boundEncoder : b.get? Identifier.mapEncoder = some encoder) :
    (∃ l, MapObject.assignment.LocatesWithin rule b (Text.utf8Size slot) 327000
        (IsAssignment slot) l) ∧
      (∃ l, MapEncoder.construction.LocatesWithin rule b (Text.utf8Size slot) 318000
        (IsConstruction slot) l) ∧
      (∃ l, MapEncoder.definition.LocatesWithin rule b (Text.utf8Size encoder) 327660
        (IsDefinition encoder) l) ∧
      ∃ l, UndoHistory.routine.LocatesWithin rule b
        (2 * Text.utf8Size container + Text.utf8Size slot) 160000
        (IsSnapshot container slot) l := by
  have assignment := MapObject.assignment_standsFor boundSlot
  obtain ⟨_, construction⟩ := MapEncoder.construction_standsFor boundSlot
  obtain ⟨_, definition⟩ := MapEncoder.definition_standsFor boundEncoder
  obtain ⟨_, routine⟩ := UndoHistory.routine_standsFor boundContainer boundSlot
  exact ⟨⟨_, locatesWithin assignment (MapObject.assignment_describes slot)
      (Describes.canReadNothing_inOrder (by simp [canReadNothing]) _)
      (MapObject.isSized_assignmentTerm slot) (by decide)⟩,
    ⟨_, locatesWithin construction (MapEncoder.construction_describes slot)
      (Describes.canReadNothing_inOrder (by simp [canReadNothing]) _)
      (MapEncoder.isSized_constructionTerm slot) (by decide)⟩,
    ⟨_, locatesWithin definition (MapEncoder.definition_describes encoder) rfl
      (MapEncoder.isSized_definitionText encoder) (by decide)⟩,
    ⟨_, locatesWithin routine (UndoHistory.routine_describes container slot)
      (Describes.canReadNothing_inOrder (by rfl) _)
      (UndoHistory.isSized_routineTerm container slot) (by decide)⟩⟩

/-- The values may hold characters that are special in patterns and templates, or be empty. -/
theorem located_in_place_of_special :
    let b := ((Bindings.empty.bind Identifier.mapObject "a[0]+(%\x7bx\x7d\n*".toList).bind
      Identifier.mapContainer []).bind Identifier.mapEncoder "$(".toList
    b.get? Identifier.mapObject = some "a[0]+(%\x7bx\x7d\n*".toList ∧
      b.get? Identifier.mapContainer = some [] ∧ b.get? Identifier.mapEncoder = some "$(".toList ∧
      ∃ l, MapObject.assignment.compile "map-object" b = .ok l ∧
        l.Locates (IsAssignment "a[0]+(%\x7bx\x7d\n*".toList) := by
  intro b
  have slot : b.get? Identifier.mapObject = some "a[0]+(%\x7bx\x7d\n*".toList := by decide
  have container : b.get? Identifier.mapContainer = some [] := by decide
  have encoder : b.get? Identifier.mapEncoder = some "$(".toList := by decide
  obtain ⟨⟨l, within⟩, -⟩ := located_in_place "map-object" slot container encoder
  exact ⟨slot, container, encoder, l, within.fits (by decide), within.locates⟩

/-- With a slot of 400000 letters, the signature of the construction of the map is not compiled. -/
theorem located_in_place_not_long :
    let slot := List.replicate 400000 'a'
    let b := ((Bindings.empty.bind Identifier.mapObject slot).bind
      Identifier.mapContainer "abc".toList).bind Identifier.mapEncoder ['Z']
    b.get? Identifier.mapObject = some slot ∧
      b.get? Identifier.mapContainer = some "abc".toList ∧
      b.get? Identifier.mapEncoder = some ['Z'] ∧
      (∃ pattern, MapEncoder.construction.compile "map-encoder" b =
        .error (.invalidPattern "map-encoder" pattern .tooLarge)) ∧
      ¬ ∃ l, MapEncoder.construction.compile "map-encoder" b = .ok l := by
  intro slot b
  have bound : b.get? Identifier.mapObject = some slot := rfl
  obtain ⟨pattern, standsFor⟩ := MapEncoder.construction_standsFor bound
  have size : Text.utf8Size slot = 400000 :=
    (Text.utf8Size_replicate 400000 'a').trans (by decide)
  have large : (MapEncoder.constructionTerm slot).isTooLarge = true :=
    (MapEncoder.isSized_constructionTerm slot).exceeds (by omega)
  have failed := (standsFor.compile "map-encoder").trans (Locator.checked_eq_error large)
  exact ⟨bound, rfl, rfl, ⟨pattern, failed⟩, fun ⟨l, ok⟩ => nomatch failed.symm.trans ok⟩

end Signature

end HookGraft

import HookGraft.Proofs.Regex.Scanner
import HookGraft.Proofs.Rule.MapObject
import Mathlib.Data.List.TakeWhile

/-!
# The map object rule as a plain scanner

What the rule does can be done by going through the text from left to right, character by character,
without patterns and templates. The first anchor tells the slot. Behind every assignment to the slot
some code is inserted, and the next assignment is searched for behind the one before it. Only a key
or a slot that is too long is refused, as no pattern is made for it.

## Main definitions

* `MapObject.anchorScanner`, `MapObject.assignmentScanner`: readers of anchors and assignments
* `MapObject.scan`: the rule as a plain scanner

## Main results

* `MapObject.apply_of_none`, `MapObject.apply_of_some`: the rule on a text without and with an anchor
* `MapObject.apply_eq_scan`: the rule and the scanner are equal
-/

namespace HookGraft

/-- The characters up to a delimiter, all of some kind, and what follows the delimiter. -/
def Text.readUntil? (kind : Char → Bool) (delimiter : Char) (text : Text) : Option (Text × Text) :=
  (dropStart? [delimiter] (text.dropWhile kind)).map fun after => (text.takeWhile kind, after)

theorem Text.readUntil?_eq_some_iff (kind : Char → Bool) {delimiter : Char}
    (other : kind delimiter = false) {text part after : Text} :
    text.readUntil? kind delimiter = some (part, after) ↔
      (∀ c ∈ part, kind c = true) ∧ text = part ++ delimiter :: after := by
  simp only [readUntil?, Option.map_eq_some_iff, dropStart?_eq_some_iff, Prod.mk.injEq]
  constructor
  · rintro ⟨_, rest, rfl, rfl⟩
    refine ⟨fun c => List.mem_takeWhile_imp, ?_⟩
    exact List.takeWhile_append_dropWhile.symm.trans (congrArg (text.takeWhile kind ++ ·) rest)
  · rintro ⟨members, rfl⟩
    refine ⟨after, ?_, ?_, rfl⟩
    · rw [List.dropWhile_append_of_pos members, List.dropWhile_cons_of_neg (by simp [other])]
      rfl
    · rw [List.takeWhile_append_of_pos members, List.takeWhile_cons_of_neg (by simp [other]),
        List.append_nil]

namespace MapObject

open Discovery

/-! ## Anchors -/

/-- The anchor at the beginning of a text. -/
def readAnchor? (key text : Text) : Option (Text × Text) := do
  let slot ← Text.dropStart? (key ++ [':']) text
  let number ← Text.dropStart? ['['] (slot.drop 3)
  let (index, after) ← Text.readUntil? CharClass.digit.contains ']' number
  if (slot.take 3).all Char.isAlphanum ∧ index ≠ [] then
    some (key ++ ':' :: (slot.take 3 ++ '[' :: (index ++ [']'])), after)
  else none

theorem readAnchor?_eq_some_iff {key text fragment after : Text} :
    readAnchor? key text = some (fragment, after) ↔
      IsAnchor key fragment ∧ text = fragment ++ after := by
  have bracket : CharClass.digit.contains ']' = false := by decide
  simp only [readAnchor?, Option.bind_eq_bind, Option.bind_eq_some_iff, Prod.exists,
    Text.dropStart?_eq_some_iff, Text.readUntil?_eq_some_iff _ bracket,
    Option.ite_none_right_eq_some, Option.some.injEq, Prod.mk.injEq, List.all_eq_true]
  constructor
  · rintro ⟨slot, rfl, number, opened, index, _, ⟨digits, rfl⟩, ⟨letters, some⟩, rfl, rfl⟩
    have three : (slot.take 3).length = 3 := by
      have := congrArg List.length opened
      simp only [List.length_drop, List.length_append, List.length_cons, List.length_nil] at this
      rw [List.length_take]
      omega
    refine ⟨⟨slot.take 3, index, three, letters, some, digits, rfl⟩, ?_⟩
    calc key ++ [':'] ++ slot
      _ = key ++ [':'] ++ (slot.take 3 ++ slot.drop 3) := by rw [List.take_append_drop]
      _ = _ := by rw [opened]; simp
  · rintro ⟨⟨container, index, three, letters, some, digits, rfl⟩, rfl⟩
    refine ⟨container ++ '[' :: (index ++ ']' :: after), by simp, index ++ ']' :: after, ?_, index,
      after, ⟨digits, rfl⟩, ⟨?_, some⟩, ?_, rfl⟩
    · rw [← three, List.drop_left]
      rfl
    · rwa [← three, List.take_left]
    · rw [← three, List.take_left]

/-- Reads anchors. -/
def anchorScanner (key : Text) : Scanner (IsAnchor key) where
  read? := readAnchor? key
  read?_eq_some_iff := readAnchor?_eq_some_iff
  ne_nil := by
    rintro _ ⟨container, index, -, -, -, -, rfl⟩
    simp

/-! ## Assignments -/

/-- The assignment at the beginning of a text. -/
def readAssignment? (slot text : Text) : Option (Text × Text) := do
  let assigned ← Text.dropStart? (slot ++ ['=']) text
  let (value, after) ← Text.readUntil? (· != ';') ';' assigned
  if value ≠ [] then some (slot ++ '=' :: (value ++ [';']), after) else none

theorem readAssignment?_eq_some_iff {slot text fragment after : Text} :
    readAssignment? slot text = some (fragment, after) ↔
      IsAssignment slot fragment ∧ text = fragment ++ after := by
  have semicolon : (';' != ';') = false := rfl
  have plain (value : Text) : (∀ c ∈ value, (c != ';') = true) ↔ ';' ∉ value :=
    forall_mem_ne_iff fun _ => bne_iff_ne
  simp only [readAssignment?, Option.bind_eq_bind, Option.bind_eq_some_iff, Prod.exists,
    Text.dropStart?_eq_some_iff, Text.readUntil?_eq_some_iff (· != ';') semicolon,
    Option.ite_none_right_eq_some, Option.some.injEq, Prod.mk.injEq, plain]
  constructor
  · rintro ⟨_, rfl, value, _, ⟨free, rfl⟩, some, rfl, rfl⟩
    exact ⟨⟨value, some, free, rfl⟩, by simp⟩
  · rintro ⟨⟨value, some, free, rfl⟩, rfl⟩
    exact ⟨value ++ ';' :: after, by simp, value, after, ⟨free, rfl⟩, some, rfl, rfl⟩

/-- Reads assignments to a slot. -/
def assignmentScanner (slot : Text) : Scanner (IsAssignment slot) where
  read? := readAssignment? slot
  read?_eq_some_iff := readAssignment?_eq_some_iff
  ne_nil := by
    rintro _ ⟨value, -, -, rfl⟩
    simp

/-! ## The rule -/

/-- The code that stands behind an assignment. -/
def mirror (ns slot : Text) : Text :=
  ns ++ ".mapObject=".toList ++ slot ++ ";if(".toList ++ ns ++ ".afterNewMapObject)".toList ++ ns ++
    ".afterNewMapObject();".toList

variable {key : String} {b : Bindings} {ns text : Text}

/-- Binds a slot and its container, and inserts the code behind every assignment to the slot, unless
the pattern of an assignment is too large. -/
def mirrorAll (slot ns text : Text) (b : Bindings) : Except PatchError RuleOutcome × Bindings :=
  let (out, sites) := (assignmentScanner slot).insertAfter (mirror ns slot) text
  (if (assignmentTerm slot).isTooLarge then
      .error (.invalidPattern name (assignmentPattern slot) .tooLarge)
    else if sites = 0 then .error (.patternNotFound name (assignmentPattern slot))
    else .ok { text := out, sites },
    (b.bind Identifier.mapObject slot).bind Identifier.mapContainer (slot.take 3))

/-- What the rule makes of a text, without templates and searches for patterns. -/
def scan (key : String) (ns text : Text) (b : Bindings) : Except PatchError RuleOutcome × Bindings :=
  if (anchorTerm key.toList).isTooLarge then
    (.error (.invalidPattern name (anchor key).template.source .tooLarge), b)
  else
    match (anchorScanner key.toList).cutFirst? text with
    | none => (.error (.patternNotFound name (anchor key).template.source), b)
    | some (_, found, _) => mirrorAll (found.drop (key.toList.length + 1)) ns text b

/-- An assignment is copied, and the code follows it. -/
theorem render_copied {slot : Text} (fragment : Text)
    (bound : b.get? Bindings.namespaceName = some ns)
    (object : b.get? Identifier.mapObject = some slot) :
    copied.render (b.bind Identifier.fragment fragment) .raw = .ok (fragment ++ mirror ns slot) := by
  have first : (b.bind Identifier.fragment fragment).get? "fragment" = some fragment :=
    Bindings.get?_bind_self
  have second : (b.bind Identifier.fragment fragment).get? "ns" = some ns :=
    (Bindings.get?_bind_of_ne (by decide)).trans bound
  have third : (b.bind Identifier.fragment fragment).get? "map_object" = some slot :=
    (Bindings.get?_bind_of_ne (by decide)).trans object
  have values : ∀ name ∈ copied.parameters, (b.bind Identifier.fragment fragment).get? name =
      some ((b.bind Identifier.fragment fragment).textOf name) := by
    simp [parameters_copied, Bindings.textOf, first, second, third]
  rw [Template.render_eq_fill _ values]
  simp [copied, Template.fill, Segment.fill, Embedding.apply, Bindings.textOf, first, second, third,
    mirror]

theorem anchor_locates (key : String) :
    (⟨name, (anchor key).template.source, anchorTerm key.toList⟩ : Locator).Locates
      (IsAnchor key.toList) :=
  (anchor_describes key.toList).locates
    (Regex.Describes.canReadNothing_inOrder (by simp [Regex.canReadNothing]) _)

theorem assignment_locates (slot : Text) :
    (⟨name, assignmentPattern slot, assignmentTerm slot⟩ : Locator).Locates (IsAssignment slot) :=
  (assignment_describes slot).locates
    (Regex.Describes.canReadNothing_inOrder (by simp [Regex.canReadNothing]) _)

theorem compile_anchor (fits : (anchorTerm key.toList).isTooLarge = false) :
    (anchor key).compile name b = .ok ⟨name, (anchor key).template.source, anchorTerm key.toList⟩ :=
  ((anchor_standsFor key b).compile name).trans (Locator.checked_eq_ok fits)

/-- With a key that is too long nothing is bound. -/
theorem apply_of_large (large : (anchorTerm key.toList).isTooLarge = true) :
    (apply key text).on b = (.error (.invalidPattern name (anchor key).template.source .tooLarge), b) := by
  have failed := ((anchor_standsFor key b).compile name).trans (Locator.checked_eq_error large)
  rw [apply, on_get_andThen, failed, on_error_andThen]

/-- On a text without an anchor nothing is bound. -/
theorem apply_of_none (fits : (anchorTerm key.toList).isTooLarge = false)
    (none : (anchorScanner key.toList).cutFirst? text = none) :
    (apply key text).on b = (.error (.patternNotFound name (anchor key).template.source), b) := by
  rw [apply, on_get_andThen, compile_anchor fits, on_ok_andThen,
    (anchor_locates key).first_of_none _ none, on_error_andThen]
  rfl

/-- On a text with an anchor the slot and its container are bound, and the code is inserted behind
every assignment. -/
theorem apply_of_some {before fragment after : Text} (identifier : isIdentifier key.toList = true)
    (fits : (anchorTerm key.toList).isTooLarge = false)
    (bound : b.get? Bindings.namespaceName = some ns)
    (found : (anchorScanner key.toList).cutFirst? text = some (before, fragment, after)) :
    (apply key text).on b = mirrorAll (fragment.drop (key.toList.length + 1)) ns text b := by
  obtain ⟨m, search, rfl⟩ := (anchor_locates key).first_of_some _ found
  have proper := ((anchorScanner key.toList).cutFirst?_eq_some_iff.1 found).2.1
  rw [apply, on_get_andThen, compile_anchor fits, on_ok_andThen, search, on_ok_andThen,
    proper.ofFragment name identifier, on_ok_andThen, on_bind_name_andThen, on_bind_name_andThen,
    on_get_andThen]
  generalize m.whole.text.drop (key.toList.length + 1) = slot
  have object : ((b.bind Identifier.mapObject slot).bind Identifier.mapContainer
      (slot.take 3)).get? Identifier.mapObject = some slot := Bindings.get?_bind_bind (by decide)
  have still : ((b.bind Identifier.mapObject slot).bind Identifier.mapContainer
      (slot.take 3)).get? Bindings.namespaceName = some ns := by
    rw [Bindings.get?_bind_of_ne (by decide), Bindings.get?_bind_of_ne (by decide), bound]
  have compiled := (assignment_standsFor object).compile name
  cases large : (assignmentTerm slot).isTooLarge with
  | true =>
    rw [compiled, Locator.checked_eq_error large, on_error_andThen, mirrorAll, large]
    rfl
  | false =>
    have rendered : ∀ m, (assignmentTerm slot).Matches m → (do
        let fragment ← m.capture name 1
        copied.render (((b.bind Identifier.mapObject slot).bind Identifier.mapContainer
          (slot.take 3)).bind Identifier.fragment fragment) .raw) =
        .ok (m.whole.text ++ mirror ns slot) := by
      intro m isMatch
      rw [Match.capture_eq_ok name (isMatch.group_whole rfl)]
      exact render_copied m.whole.text still object
    rw [compiled, Locator.checked_eq_ok large, on_ok_andThen,
      (assignment_locates slot).replaceAll_eq (assignmentScanner slot) rendered, on_ok_andThen,
      mirrorAll, large]
    generalize (assignmentScanner slot).insertAfter (mirror ns slot) text = scanned
    obtain ⟨out, sites⟩ := scanned
    cases sites with
    | zero => rfl
    | succ sites => rfl

/-- The rule does what the scanner does. -/
theorem apply_of_identifier (identifier : isIdentifier key.toList = true)
    (bound : b.get? Bindings.namespaceName = some ns) :
    (apply key text).on b = scan key ns text b := by
  rw [scan]
  split
  · exact apply_of_large ‹_›
  · rename_i fits
    rw [Bool.not_eq_true] at fits
    split
    · exact apply_of_none fits ‹_›
    · exact apply_of_some identifier fits bound ‹_›

/-- The rule does what the scanner does, which refuses only a key or a slot that is too long: every one
of more than 327680 bytes, and none of up to 312000 bytes. -/
theorem apply_eq_scan (identifier : isIdentifier key.toList = true)
    (bound : b.get? Bindings.namespaceName = some ns) (text : Text) :
    (apply key text).on b = scan key ns text b ∧
      (Text.utf8Size key.toList ≤ 312000 → (anchorTerm key.toList).isTooLarge = false) ∧
      (327680 < Text.utf8Size key.toList → (anchorTerm key.toList).isTooLarge = true) ∧
      ∀ slot, (Text.utf8Size slot ≤ 327000 → (assignmentTerm slot).isTooLarge = false) ∧
        (327680 < Text.utf8Size slot → (assignmentTerm slot).isTooLarge = true) := by
  have keySized := isSized_anchorTerm key.toList
  refine ⟨apply_of_identifier identifier bound, fun short => keySized.fits (by omega),
    keySized.exceeds, fun slot => ?_⟩
  have slotSized := isSized_assignmentTerm slot
  exact ⟨fun short => slotSized.fits (by omega), slotSized.exceeds⟩

theorem isIdentifier_replicate (n : Nat) : isIdentifier (List.replicate (n + 1) 'a') = true := by
  simp [isIdentifier, List.replicate_succ]

/-- With a key of 400000 letters the rule fails on the empty text, but not because there is no
anchor. -/
theorem apply_eq_scan_not_long_key :
    let key := String.ofList (List.replicate 400000 'a')
    let b := Bindings.empty.bind "ns" ['w']
    isIdentifier key.toList = true ∧ b.get? Bindings.namespaceName = some ['w'] ∧
      (∀ t, IsAnchor key.toList t → ¬ t <:+: []) ∧
      (apply key []).on b = (.error (.invalidPattern name (anchor key).template.source .tooLarge), b) ∧
      ∀ pattern, ((apply key []).on b).1 ≠ .error (.patternNotFound name pattern) := by
  intro key b
  have spelled : key.toList = List.replicate 400000 'a' := String.toList_ofList
  have size : Text.utf8Size key.toList = 400000 := by
    rw [spelled]
    exact (Text.utf8Size_replicate 400000 'a').trans (by decide)
  have large : (anchorTerm key.toList).isTooLarge = true :=
    (isSized_anchorTerm key.toList).exceeds (by omega)
  have failed : (apply key []).on b = _ := apply_of_large large
  refine ⟨?_, rfl, fun t isAnchor inside => ?_, failed, fun pattern => ?_⟩
  · rw [spelled]
    exact isIdentifier_replicate 399999
  · exact (anchorScanner key.toList).ne_nil isAnchor (List.infix_nil.1 inside)
  · rw [failed]
    exact nofun

/-- Nothing is assigned in the first place. In the second place all up to the semicolon is one
assignment, and in the last place there is no semicolon. -/
theorem apply_eq_scan_of_three :
    let text := "\x7brxid:abc[1]\x7d;abc[1]=;abc[1]=abc[1]=2;abc[1]=3".toList
    let out := "\x7brxid:abc[1]\x7d;abc[1]=;".toList ++ "abc[1]=abc[1]=2;".toList ++
      mirror ['w'] "abc[1]".toList ++ "abc[1]=3".toList
    let b := Bindings.empty.bind "ns" ['w']
    isIdentifier "rxid".toList = true ∧ b.get? Bindings.namespaceName = some ['w'] ∧
      (apply "rxid" text).on b = (.ok { text := out, sites := 1 },
        (b.bind "map_object" "abc[1]".toList).bind "map_container" "abc".toList) := by
  intro text out b
  have identifier : isIdentifier "rxid".toList = true := by decide
  have bound : b.get? Bindings.namespaceName = some ['w'] := by decide
  have anchor : (anchorScanner "rxid".toList).cutFirst? text = some (['\x7b'], "rxid:abc[1]".toList,
      "\x7d;abc[1]=;abc[1]=abc[1]=2;abc[1]=3".toList) := by rfl
  have first : (assignmentScanner "abc[1]".toList).cutFirst? text =
      some ("\x7brxid:abc[1]\x7d;abc[1]=;".toList, "abc[1]=abc[1]=2;".toList, "abc[1]=3".toList) := by
    rfl
  have last : (assignmentScanner "abc[1]".toList).cutFirst? "abc[1]=3".toList = none := by rfl
  have scanned : (assignmentScanner "abc[1]".toList).insertAfter
      (mirror ['w'] "abc[1]".toList) text = (out, 1) := by
    rw [Scanner.insertAfter_of_some _ first, Scanner.insertAfter_of_none _ last]
  refine ⟨identifier, bound, ?_⟩
  obtain ⟨scans, keyFits, -, slotFits⟩ := apply_eq_scan identifier bound text
  rw [scans, scan, keyFits (by decide), anchor]
  show mirrorAll "abc[1]".toList ['w'] text b = _
  rw [mirrorAll, scanned, (slotFits "abc[1]".toList).1 (by decide)]
  rfl

end MapObject

end HookGraft

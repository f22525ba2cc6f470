import HookGraft.PatchError
import HookGraft.Regex.Footprint
import HookGraft.Regex.Reader
import HookGraft.Text

/-!
# The size of patterns

A pattern is laid out over bytes twice, to be read forwards with its groups and to be read backwards
without them. Neither layout may take more room than the limit allows.

## Main definitions

* `Regex.footprint`: adds a term to a layout
* `Regex.wholeFootprint`: the room that a whole pattern takes
* `Regex.isTooLarge`: whether a pattern exceeds the limit
* `Regex.ofText`: the term that a pattern within the limit stands for
-/

namespace HookGraft.Regex

/-- The texts between which a term is a choice, if it is nothing else. -/
def texts? (r : Regex) : Option (List Text) :=
  r.alternatives.mapM fun
    | text (c :: t) => some (c :: t)
    | _ => none

/-- The bytes of a text, in the order in which they are read. -/
def bytesOf (direction : Direction) (t : Text) : List UInt8 :=
  let bytes := t.flatMap String.utf8EncodeChar
  match direction with
  | .forwards => bytes
  | .backwards => bytes.reverse

/-- Adds what makes the newest term one of several to choose from, `earlier` of which have been
added before. The node for the choice and the one where it ends are made for the second term. -/
def addOption (earlier : Option Nat) (f : Footprint) : Footprint :=
  match earlier with
  | none => f
  | some 1 => f.add 2 8
  | some (_ + 2) => f.add 0 4
  | some 0 => f

/-- Adds a term, which may be one of several to choose from, with `earlier` others before it. A
choice between texts alone lets them share what they begin with. -/
def footprint (direction : Direction) : Regex → (earlier : Option Nat) → Footprint → Footprint
  | text t, earlier, f => addOption earlier (f.add (max 1 (Text.utf8Size t)))
  | char k, earlier, f => addOption earlier (k.footprint direction f)
  | look _, earlier, f => addOption earlier (f.add 1)
  | seq a b, earlier, f =>
    addOption earlier <|
      match direction with
      | .forwards => footprint direction b none (footprint direction a none f)
      | .backwards => footprint direction a none (footprint direction b none f)
  | alt a b, none, f =>
    match (alt a b).texts? with
    | some texts =>
      let texts := texts.map (bytesOf direction)
      (f.add 1).addTexts ((texts.map List.length).foldl max 0) texts
    | none => footprint direction b (some 1) (footprint direction a none f)
  | alt a b, some earlier, f =>
    footprint direction b (some (earlier + 1))
      (addOption (some earlier) (footprint direction a none f))
  | group _ r, earlier, f =>
    addOption earlier <|
      match direction with
      | .forwards => (footprint direction r none (f.add 1)).add 1
      | .backwards => footprint direction r none f
  | repeated r min max _, earlier, f =>
    let part := footprint direction r none
    addOption earlier <|
      match min, max with
      | 0, none =>
        if r.canReadNothing then (((part f).choose 2).choose 2).add 1 else part (f.choose 2)
      | min + 1, none => (Footprint.copies part (min + 1) f).choose 2
      | 0, some 1 => (part (f.choose 2)).add 1
      | min, some max =>
        let f := if min = 0 then f.add 1 else Footprint.copies part min f
        if min = max then f
        else Footprint.copies (fun f => part (f.choose 2)) (max - min) (f.add 1)

/-- Whether every match of a term begins where the text does. -/
def beginsText : Regex → Bool
  | text _ | char _ => false
  | look l => l == .textStart
  | seq a b => a.beginsText || (a.readsNothing && b.beginsText)
  | alt a b => a.beginsText && b.beginsText
  | group _ r => r.beginsText
  | repeated r min _ _ => min != 0 && r.beginsText

/-- Whether every match of a term ends where the text does. -/
def endsText : Regex → Bool
  | text _ | char _ => false
  | look l => l == .textEnd
  | seq a b => b.endsText || (b.readsNothing && a.endsText)
  | alt a b => a.endsText && b.endsText
  | group _ r => r.endsText
  | repeated r min _ _ => min != 0 && r.endsText

/-- The room that a whole pattern takes. Unless it is bound to the end of the text where reading
begins, a search skips bytes before it. -/
def wholeFootprint (direction : Direction) (r : Regex) : Footprint :=
  let skipping : Footprint := ⟨3, 16⟩
  match direction with
  | .forwards =>
    let before := if r.beginsText then ⟨1, 0⟩ else skipping
    (footprint direction r none (before.add 1)).add 2
  | .backwards =>
    let before := if r.endsText then ⟨1, 0⟩ else skipping
    (footprint direction r none before).add 1

/-- Whether a term is a choice between very many texts. Such a choice is searched for in a way of
its own, without a layout. -/
def isLongChoice (r : Regex) : Bool := r.texts?.any (3000 ≤ ·.length)

/-- Whether a pattern takes too much room. -/
def isTooLarge (r : Regex) : Bool :=
  !r.isLongChoice
    && ((wholeFootprint .forwards r).isTooLarge || (wholeFootprint .backwards r).isTooLarge)

/-- The term that a pattern stands for, if it is not too large. -/
def ofText (modes : Modes) (pattern : Text) : Except PatternDefect Regex :=
  match parse? modes pattern with
  | none => .error .malformed
  | some r => if r.isTooLarge then .error .tooLarge else .ok r

end HookGraft.Regex

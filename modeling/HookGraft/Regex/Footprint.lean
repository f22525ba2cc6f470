import Std.Data.HashMap
import HookGraft.Regex.CharClass
import HookGraft.Unicode.Encoding

/-!
# Footprints

Laid out over bytes, a pattern takes room: nodes that read a byte, check a condition, mark a side of
a group or choose where to go on, and the links of nodes that have several. A footprint is the room
that the layout takes so far.

## Main definitions

* `Footprint`: the room that a layout takes
* `Footprint.addTexts`: adds a choice between texts
* `Sharing`: a layout in which nodes are used again
* `CharClass.footprint`: adds a character of a class
-/

namespace HookGraft

open Unicode

/-- The two ways to read a text. -/
inductive Direction where
  | forwards
  | backwards
  deriving DecidableEq

/-- The room that a layout takes. -/
structure Footprint where
  nodes : Nat := 0
  /-- the bytes of links that are kept beside their nodes -/
  linked : Nat := 0

namespace Footprint

/-- The number of bytes. -/
def bytes (f : Footprint) : Nat := 32 * f.nodes + f.linked

/-- The number of bytes that a layout may take. -/
def limit : Nat := 10 * 0x100000

/-- Whether a layout takes too many bytes. -/
def isTooLarge (f : Footprint) : Bool := limit < f.bytes

/-- Adds nodes. -/
def add (f : Footprint) (nodes : Nat) (linked : Nat := 0) : Footprint :=
  ⟨f.nodes + nodes, f.linked + linked⟩

/-- Adds a node for a choice between `options`. -/
def choose (f : Footprint) (options : Nat) : Footprint := f.add 1 (4 * options)

/-- Adds a node that reads a byte by one of `links`. -/
def branch (f : Footprint) (links : Nat) : Footprint := f.add 1 (8 * links)

/-- Adds a part `n` times, unless the layout is too large before that. -/
def copies (part : Footprint → Footprint) : (n : Nat) → Footprint → Footprint
  | 0, f => f
  | n + 1, f => if f.isTooLarge then f else copies part n (part f)

/-- Adds the nodes for some texts that begin at one node, which share their beginnings. An empty
text ends the sharing between the texts before and behind it. No text is longer than `length`. -/
def addTexts : (length : Nat) → (texts : List (List UInt8)) → Footprint → Footprint
  | 0, _, f => f
  | length + 1, texts, f =>
    if texts.all (·.isEmpty) then f
    else
      let parts := (texts.splitBy fun s t => !s.isEmpty && !t.isEmpty).filter fun part =>
        part.all (!·.isEmpty)
      let ends := (texts.dropWhile (·.isEmpty)).countP (·.isEmpty)
        + (if texts.head?.any (·.isEmpty) then 1 else 0)
      parts.foldl
        (fun f part =>
          let bytes := (part.filterMap (·.head?)).eraseDups
          bytes.foldl
            (fun f byte =>
              addTexts length ((part.filter (·.head? == some byte)).map List.tail) f)
            (f.add 1 (if bytes.length = 1 then 0 else 8 * bytes.length)))
        (f.choose (parts.length + ends))

end Footprint

/-- A layout that is being extended, with nodes that can be used again. -/
structure Sharing where
  footprint : Footprint
  /-- in each slot, what tells a node from others, and its number -/
  slots : Std.HashMap Nat (List Nat × Nat) := ∅

namespace Sharing

/-- The slot for what tells a node from others, one of `count`. -/
def slot (count : Nat) (numbers : List Nat) : Nat :=
  let hash := numbers.foldl (fun h n => (h ^^^ n.toUInt64) * 0x100000001b3) 0xcbf29ce484222325
  hash.toNat % count

/-- The number of a node: the one that is in its slot, or else a new one, which takes the slot. -/
def node (count : Nat) (numbers : List Nat) (linked : Nat) (s : Sharing) : Nat × Sharing :=
  let slot := slot count numbers
  match s.slots[slot]?.filter (·.1 == numbers) with
  | some (_, old) => (old, s)
  | none =>
    let new := s.footprint.nodes
    (new, ⟨s.footprint.add 1 linked, s.slots.insert slot (numbers, new)⟩)

/-- Lays out byte sequences that begin alike, the rest of them by `tree`, beside others whose
numbers are given. -/
def addGroup (last : Nat) (tree : List ByteSequence → Sharing → Nat × Sharing)
    (numbers : List Nat) (s : Sharing) (group : List ByteSequence) : List Nat × Sharing :=
  let (low, high) := (group.head?.bind (·.head?)).getD (0, 0)
  let tails := (group.map List.tail).filter (!·.isEmpty)
  let (next, s) := if tails.isEmpty then (last, s) else tree tails s
  (numbers ++ [low, high, next], s)

/-- Lays out byte sequences from one node to the node `last`. Neighbours that begin alike share
their beginnings, and all share their ends as far as possible. No sequence is longer than
`length`. -/
def addTree (last : Nat) : (length : Nat) → List ByteSequence → Sharing → Nat × Sharing
  | 0, _, s => (last, s)
  | length + 1, sequences, s =>
    let (numbers, s) := (sequences.splitBy (·.head? == ·.head?)).foldl
      (fun (numbers, s) group => addGroup last (addTree last length) numbers s group) ([], s)
    s.node 10000 numbers (8 * (numbers.length / 3))

/-- Lays out a byte sequence to be read from its end, where `last` is the node that follows. -/
def addChain (last : Nat) (sequence : ByteSequence) (s : Sharing) : Sharing :=
  (sequence.foldl (fun (next, s) (low, high) => s.node 1000 [next, low, high] 0) (last, s)).2

end Sharing

/-- Adds a character of a class, unless the layout is too large before that. -/
def CharClass.footprint (direction : Direction) (k : CharClass) (f : Footprint) : Footprint :=
  if f.isTooLarge then f
  else if k.ranges.all (·.2 < 0x80) then (f.add 1).branch k.ranges.length
  else
    let sequences := k.ranges.flatMap fun (low, high) => byteSequences low high
    match direction with
    | .forwards => (Sharing.addTree f.nodes 4 sequences ⟨f.add 1, ∅⟩).2.footprint
    | .backwards =>
      let start : Sharing := ⟨(f.choose sequences.length).add 1, ∅⟩
      (sequences.foldl (fun s sequence => s.addChain (f.nodes + 1) sequence) start).footprint

end HookGraft

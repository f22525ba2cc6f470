import Mathlib.Algebra.GroupWithZero.Nat
import Mathlib.Data.List.SplitBy
import HookGraft.Regex.SizeLimit

/-!
# Patterns that are too large

A pattern of any length may be written, but what it is laid out as has to be within the limit. The
room that a term without a choice takes is bounded from below by the texts in it, and from above by
a sum over its parts.

## Main definitions

* `Footprint.Grows`: the room that is added to a layout, within bounds
* `Regex.textSize`, `Regex.bulk`: bounds for the room that a term takes
* `Regex.IsSized`: a term that takes little room besides that of its texts

## Main results

* `Regex.grows_footprint`: a term without a choice takes room within these bounds
* `Regex.isTooLarge_text`: when a text is too large
* `Regex.ofText_eq_evaluate`: what a pattern stands for is found without a layout
* `Regex.IsSized.fits`, `Regex.IsSized.exceeds`: when a term is not too large, and when it is
-/

namespace HookGraft

namespace Footprint

variable {f g h : Footprint} {least most least' most' : Nat}

/-- One layout is another one with at least `least` and at most `most` more bytes. -/
structure Grows (least most : Nat) (f g : Footprint) : Prop where
  least : f.bytes + least ≤ g.bytes
  most : g.bytes ≤ f.bytes + most

theorem Grows.refl (f : Footprint) : Grows 0 0 f f := ⟨Nat.le_refl _, Nat.le_refl _⟩

theorem Grows.trans (first : Grows least most f g) (second : Grows least' most' g h) :
    Grows (least + least') (most + most') f h := by
  obtain ⟨below, above⟩ := first
  obtain ⟨below', above'⟩ := second
  exact ⟨by omega, by omega⟩

theorem Grows.mono (grows : Grows least most f g) (below : least' ≤ least) (above : most ≤ most') :
    Grows least' most' f g :=
  ⟨Nat.le_trans (Nat.add_le_add_left below _) grows.least,
    Nat.le_trans grows.most (Nat.add_le_add_left above _)⟩

theorem grows_add (f : Footprint) (nodes linked : Nat) :
    Grows (32 * nodes + linked) (32 * nodes + linked) f (f.add nodes linked) := by
  have exactly : (f.add nodes linked).bytes = f.bytes + (32 * nodes + linked) := by
    simp only [bytes, add]
    omega
  exact ⟨Nat.le_of_eq exactly.symm, Nat.le_of_eq exactly⟩

theorem grows_choose (f : Footprint) (options : Nat) :
    Grows 0 (32 + 4 * options) f (f.choose options) :=
  (f.grows_add 1 (4 * options)).mono (Nat.zero_le _) (Nat.le_refl _)

theorem grows_branch (f : Footprint) (links : Nat) :
    Grows 0 (32 + 8 * links) f (f.branch links) :=
  (f.grows_add 1 (8 * links)).mono (Nat.zero_le _) (Nat.le_refl _)

/-- What adds no more than `most` bytes each time adds no more than `n` times as many. -/
theorem grows_copies {part : Footprint → Footprint} (grows : ∀ f, Grows 0 most f (part f))
    (n : Nat) (f : Footprint) : Grows 0 (n * most) f (copies part n f) := by
  induction n generalizing f with
  | zero => exact (Grows.refl f).mono (Nat.le_refl _) (Nat.zero_le _)
  | succ n ih =>
    rw [copies]
    split
    · exact (Grows.refl f).mono (Nat.le_refl _) (Nat.zero_le _)
    · refine ((grows f).trans (ih (part f))).mono (Nat.le_refl _) (Nat.le_of_eq ?_)
      rw [Nat.succ_mul, Nat.add_comm]

/-- What adds bytes for one thing after another adds the sum of them. -/
theorem grows_foldl {α σ : Type} (view : σ → Footprint) (step : σ → α → σ) (cost : α → Nat)
    (grows : ∀ s a, Grows 0 (cost a) (view s) (view (step s a))) (as : List α) (s : σ) :
    Grows 0 (as.map cost).sum (view s) (view (as.foldl step s)) := by
  induction as generalizing s with
  | nil => exact Grows.refl _
  | cons a rest ih => exact (grows s a).trans (ih (step s a))

end Footprint

open Footprint Unicode

/-! ## Characters of a class -/

namespace Sharing

theorem grows_node (count : Nat) (numbers : List Nat) (linked : Nat) (s : Sharing) :
    Grows 0 (32 + linked) s.footprint (s.node count numbers linked).2.footprint := by
  simp only [node]
  split
  · exact (Grows.refl _).mono (Nat.le_refl _) (Nat.zero_le _)
  · exact (s.footprint.grows_add 1 linked).mono (Nat.zero_le _) (Nat.le_refl _)

/-- At least as many bytes as a byte sequence takes with the links to it. -/
def weight (sequence : ByteSequence) : Nat := 40 * sequence.length + 8

/-- At least as many bytes as sequences that begin alike take behind the first byte. -/
def weightBehind (group : List ByteSequence) : Nat :=
  let tails := (group.map List.tail).filter (!·.isEmpty)
  if tails.isEmpty then 0 else 32 + (tails.map weight).sum

theorem sum_weight_tails_le (group : List ByteSequence) :
    (((group.map List.tail).filter (!·.isEmpty)).map weight).sum +
      40 * ((group.map List.tail).filter (!·.isEmpty)).length ≤ (group.map weight).sum := by
  induction group with
  | nil => simp
  | cons sequence rest ih =>
    match sequence with
    | [] | [_] =>
      simp only [List.map_cons, List.tail_nil, List.tail_cons, List.filter_cons, List.isEmpty_nil,
        Bool.not_true, if_neg Bool.false_ne_true, List.sum_cons]
      omega
    | _ :: byte :: bytes =>
      simp only [List.map_cons, List.tail_cons, List.filter_cons, List.isEmpty_cons, Bool.not_false,
        if_true, List.sum_cons, List.length_cons, weight] at ih ⊢
      omega

theorem weightBehind_le {group : List ByteSequence} (some : group ≠ []) :
    weightBehind group + 8 ≤ (group.map weight).sum := by
  have tails := sum_weight_tails_le group
  rw [weightBehind]
  split
  · obtain ⟨sequence, rest, rfl⟩ := List.exists_cons_of_ne_nil some
    simp only [List.map_cons, List.sum_cons, weight]
    omega
  · rename_i proper
    have := List.length_pos_iff.2 (mt List.isEmpty_iff.2 proper)
    omega

theorem sum_weightBehind_le (groups : List (List ByteSequence)) (proper : [] ∉ groups) :
    (groups.map weightBehind).sum + 8 * groups.length ≤ (groups.flatten.map weight).sum := by
  induction groups with
  | nil => simp
  | cons group rest ih =>
    obtain ⟨first, others⟩ := not_or.1 (mt List.mem_cons.2 proper)
    have here := weightBehind_le (Ne.symm first)
    have later := ih others
    simp only [List.map_cons, List.sum_cons, List.length_cons, List.flatten_cons, List.map_append,
      List.sum_append]
    omega

variable {last : Nat} {tree : List ByteSequence → Sharing → Nat × Sharing}

theorem length_addGroup (numbers : List Nat) (s : Sharing) (group : List ByteSequence) :
    (addGroup last tree numbers s group).1.length = numbers.length + 3 := by
  simp [addGroup]

theorem grows_addGroup (grows : ∀ sequences s,
      Grows 0 (32 + (sequences.map weight).sum) s.footprint (tree sequences s).2.footprint)
    (numbers : List Nat) (s : Sharing) (group : List ByteSequence) :
    Grows 0 (weightBehind group) s.footprint (addGroup last tree numbers s group).2.footprint := by
  simp only [addGroup, weightBehind]
  split
  · exact .refl _
  · exact grows _ s

theorem length_addGroups (groups : List (List ByteSequence)) (numbers : List Nat) (s : Sharing) :
    (groups.foldl (fun (numbers, s) group => addGroup last tree numbers s group)
      (numbers, s)).1.length = numbers.length + 3 * groups.length := by
  induction groups generalizing numbers s with
  | nil => rfl
  | cons group rest ih =>
    rw [List.foldl_cons, ih, length_addGroup, List.length_cons]
    omega

theorem grows_addTree (last length : Nat) (sequences : List ByteSequence) (s : Sharing) :
    Grows 0 (32 + (sequences.map weight).sum) s.footprint
      (addTree last length sequences s).2.footprint := by
  induction length generalizing sequences s with
  | zero => exact (Grows.refl _).mono (Nat.le_refl _) (Nat.zero_le _)
  | succ length ih =>
    let groups := sequences.splitBy (·.head? == ·.head?)
    let laid := groups.foldl
      (fun (numbers, s) group => addGroup last (addTree last length) numbers s group) ([], s)
    have behind : Grows 0 (groups.map weightBehind).sum s.footprint laid.2.footprint :=
      grows_foldl (fun laid => laid.2.footprint) _ weightBehind
        (fun laid group => grows_addGroup ih laid.1 laid.2 group) groups ([], s)
    have numbered : laid.1.length = 3 * groups.length :=
      (length_addGroups groups [] s).trans (Nat.zero_add _)
    have whole := sum_weightBehind_le groups (List.nil_notMem_splitBy _ _)
    rw [List.flatten_splitBy] at whole
    refine (behind.trans (grows_node 10000 laid.1 (8 * (laid.1.length / 3)) laid.2)).mono
      (Nat.le_refl _) ?_
    omega

theorem grows_addChain (last : Nat) (sequence : ByteSequence) (s : Sharing) :
    Grows 0 (32 * sequence.length) s.footprint (addChain last sequence s).footprint := by
  have each (laid : Nat × Sharing) (range : Nat × Nat) : Grows 0 32 laid.2.footprint
      (laid.2.node 1000 [laid.1, range.1, range.2] 0).2.footprint :=
    grows_node 1000 [laid.1, range.1, range.2] 0 laid.2
  have grows := grows_foldl (·.2.footprint) _ (fun _ => 32) each sequence (last, s)
  rw [List.map_const', List.sum_replicate_nat, Nat.mul_comm] at grows
  exact grows

end Sharing

/-- A range of characters is cut into few byte sequences. -/
theorem length_cutAtBlocks_le (sizes : List Nat) (low high : Nat) :
    (cutAtBlocks sizes low high).length ≤ 2 * sizes.length + 1 := by
  induction sizes generalizing low high with
  | nil => simp [cutAtBlocks]
  | cons size sizes ih =>
    rw [cutAtBlocks]
    have inner := ih ((low + size - 1) / size * size) ((high + 1) / size * size - 1)
    split
    · simp
    · simp only [List.length_append, List.length_cons]
      split <;> split <;> split <;> simp only [List.length_singleton, List.length_nil] <;> omega

theorem length_flatMap_le {α β : Type} {f : α → List β} {n : Nat} (few : ∀ a, (f a).length ≤ n)
    (as : List α) : (as.flatMap f).length ≤ n * as.length := by
  induction as with
  | nil => simp
  | cons a rest ih =>
    have here := few a
    rw [List.flatMap_cons, List.length_append, List.length_cons, Nat.mul_succ]
    omega

theorem length_byteSequences_le (low high : Nat) : (byteSequences low high).length ≤ 35 := by
  refine length_flatMap_le (n := 7) (fun span => ?_) codeSpans
  obtain ⟨first, last⟩ := span
  have blocks := length_cutAtBlocks_le [0x40, 0x1000, 0x40000] (max low first) (min high last)
  dsimp only
  split
  · simp
  · split
    · simp
    · simpa using blocks

theorem length_le_of_mem_byteSequences {low high : Nat} {sequence : ByteSequence}
    (member : sequence ∈ byteSequences low high) : sequence.length ≤ 4 := by
  obtain ⟨⟨first, last⟩, -, member⟩ := List.mem_flatMap.1 member
  dsimp only at member
  split at member
  · contradiction
  · split at member
    · rw [List.mem_singleton.1 member]
      exact Nat.le_add_left 1 3
    · obtain ⟨⟨low, high⟩, -, rfl⟩ := List.mem_map.1 member
      refine Nat.le_trans (List.length_zip ▸ Nat.min_le_left _ _) ?_
      rw [encode, List.length_map, String.length_utf8EncodeChar]
      exact Char.utf8Size_le_four _

theorem sum_weight_le {sequences : List ByteSequence} (short : ∀ s ∈ sequences, s.length ≤ 4) :
    (sequences.map Sharing.weight).sum ≤ 168 * sequences.length := by
  induction sequences with
  | nil => simp
  | cons sequence rest ih =>
    obtain ⟨here, others⟩ := List.forall_mem_cons.1 short
    have later := ih others
    simp only [List.map_cons, List.sum_cons, List.length_cons, Sharing.weight]
    omega

theorem sum_length_le {sequences : List ByteSequence} (short : ∀ s ∈ sequences, s.length ≤ 4) :
    (sequences.map (32 * ·.length)).sum ≤ 128 * sequences.length := by
  induction sequences with
  | nil => simp
  | cons sequence rest ih =>
    obtain ⟨here, others⟩ := List.forall_mem_cons.1 short
    have later := ih others
    simp only [List.map_cons, List.sum_cons, List.length_cons]
    omega

/-- A character takes room in proportion to the ranges of its class. -/
theorem CharClass.grows_footprint (direction : Direction) (k : CharClass) (f : Footprint) :
    Grows 0 (5880 * k.ranges.length + 64) f (k.footprint direction f) := by
  rw [footprint]
  split
  · exact (Grows.refl f).mono (Nat.le_refl _) (Nat.zero_le _)
  split
  · refine ((f.grows_add 1 0).trans ((f.add 1).grows_branch k.ranges.length)).mono
      (Nat.zero_le _) ?_
    omega
  let sequences := k.ranges.flatMap fun range => byteSequences range.1 range.2
  have few : sequences.length ≤ 35 * k.ranges.length :=
    length_flatMap_le (fun range => length_byteSequences_le range.1 range.2) k.ranges
  have short : ∀ s ∈ sequences, s.length ≤ 4 := by
    intro s member
    obtain ⟨range, -, member⟩ := List.mem_flatMap.1 member
    exact length_le_of_mem_byteSequences member
  cases direction with
  | forwards =>
    have weight := sum_weight_le short
    refine ((f.grows_add 1 0).trans (Sharing.grows_addTree f.nodes 4 sequences
      ⟨f.add 1, ∅⟩)).mono (Nat.zero_le _) ?_
    omega
  | backwards =>
    have length := sum_length_le short
    have chains := grows_foldl Sharing.footprint _ _
      (fun s sequence => Sharing.grows_addChain (f.nodes + 1) sequence s) sequences
      ⟨(f.choose sequences.length).add 1, ∅⟩
    refine (((f.grows_choose sequences.length).trans ((f.choose sequences.length).grows_add 1
      0)).trans chains).mono (Nat.zero_le _) ?_
    omega

/-! ## Terms -/

namespace Regex

/-- Whether a term holds a choice. -/
def hasChoice : Regex → Bool
  | text _ | char _ | look _ => false
  | seq a b => a.hasChoice || b.hasChoice
  | alt _ _ => true
  | group _ r => r.hasChoice
  | repeated r _ _ _ => r.hasChoice

/-- The number of bytes of the texts that every match of a term reads, repetitions set aside. -/
def textSize : Regex → Nat
  | text t => Text.utf8Size t
  | seq a b => a.textSize + b.textSize
  | group _ r => r.textSize
  | _ => 0

/-- At least as many bytes as a term without a choice takes in either direction. -/
def bulk : Regex → Nat
  | text t => 32 * max 1 (Text.utf8Size t)
  | char k => 5880 * k.ranges.length + 64
  | look _ => 32
  | seq a b | alt a b => a.bulk + b.bulk
  | group _ r => r.bulk + 64
  | repeated r least none _ => max least 1 * r.bulk + 112
  | repeated r least (some most) _ => max least most * (r.bulk + 40) + 64

/-- A repeated term takes the room of all its rounds. -/
theorem grows_repeated {r : Regex} {direction : Direction}
    (part : ∀ f, Grows 0 r.bulk f (footprint direction r none f)) (least : Nat)
    (bound : Option Nat) (greedy : Bool) (f : Footprint) :
    Grows 0 (repeated r least bound greedy).bulk f
      (footprint direction (repeated r least bound greedy) none f) := by
  have round (f : Footprint) : Grows 0 (r.bulk + 40) f (footprint direction r none (f.choose 2)) :=
    ((f.grows_choose 2).trans (part _)).mono (Nat.le_refl _) (Nat.le_of_eq (Nat.add_comm _ _))
  simp only [footprint, addOption]
  split
  · split
    · refine ((((part f).trans (grows_choose _ 2)).trans (grows_choose _ 2)).trans
        (grows_add _ 1 0)).mono (Nat.zero_le _) ?_
      simp only [bulk, Nat.max_eq_right (Nat.zero_le 1)]
      omega
    · refine (round f).mono (Nat.le_refl _) ?_
      simp only [bulk, Nat.max_eq_right (Nat.zero_le 1)]
      omega
  · rename_i least
    refine ((grows_copies part (least + 1) f).trans (grows_choose _ 2)).mono (Nat.zero_le _) ?_
    rw [bulk, Nat.max_eq_left (Nat.le_add_left 1 least)]
    omega
  · refine ((round f).trans (grows_add _ 1 0)).mono (Nat.zero_le _) ?_
    simp only [bulk, Nat.max_eq_right (Nat.zero_le 1)]
    omega
  · rename_i most _
    let rounds := if least = 0 then f.add 1 else copies (footprint direction r none) least f
    have first : Grows 0 (32 + least * (r.bulk + 40)) f rounds := by
      have enough := Nat.mul_le_mul_left least (Nat.le_add_right r.bulk 40)
      simp only [rounds]
      split
      · exact (f.grows_add 1 0).mono (Nat.zero_le _) (Nat.le_add_right _ _)
      · exact (grows_copies part least f).mono (Nat.le_refl _) (by omega)
    have further : Grows 0 (32 + (most - least) * (r.bulk + 40)) rounds
        (if least = most then rounds
          else copies (fun f => footprint direction r none (f.choose 2)) (most - least)
            (rounds.add 1)) := by
      split
      · exact (Grows.refl rounds).mono (Nat.le_refl _) (Nat.zero_le _)
      · exact ((grows_add rounds 1 0).trans (grows_copies round (most - least) _)).mono
          (Nat.zero_le _) (Nat.le_refl _)
    refine (first.trans further).mono (Nat.le_refl _) ?_
    have all : least + (most - least) = max least most := by omega
    rw [bulk, ← all, Nat.add_mul]
    omega

/-- A term without a choice takes at least as much room as the texts in it, and at most as much as
its bulk. -/
theorem grows_footprint {r : Regex} (direction : Direction) (noChoice : r.hasChoice = false)
    (f : Footprint) : Grows (32 * r.textSize) r.bulk f (footprint direction r none f) := by
  induction r generalizing f with
  | text t =>
    exact (f.grows_add (max 1 (Text.utf8Size t)) 0).mono
      (Nat.mul_le_mul_left 32 (Nat.le_max_right _ _)) (Nat.le_refl _)
  | char k => exact k.grows_footprint direction f
  | look => exact (f.grows_add 1 0).mono (Nat.zero_le _) (Nat.le_refl _)
  | seq a b iha ihb =>
    obtain ⟨noChoiceA, noChoiceB⟩ := Bool.or_eq_false_iff.1 noChoice
    cases direction with
    | forwards =>
      refine ((iha noChoiceA f).trans (ihb noChoiceB _)).mono ?_ (Nat.le_refl _)
      rw [textSize, Nat.mul_add]
    | backwards =>
      refine ((ihb noChoiceB f).trans (iha noChoiceA _)).mono ?_ (Nat.le_of_eq (Nat.add_comm _ _))
      rw [textSize, Nat.mul_add, Nat.add_comm]
  | alt => contradiction
  | group n r ih =>
    cases direction with
    | forwards =>
      refine (((f.grows_add 1 0).trans (ih noChoice _)).trans (grows_add _ 1 0)).mono ?_ ?_ <;>
        simp only [textSize, bulk] <;> omega
    | backwards => exact (ih noChoice f).mono (Nat.le_refl _) (Nat.le_add_right _ _)
  | repeated r min max greedy ih =>
    have part (f : Footprint) : Grows 0 r.bulk f (footprint direction r none f) :=
      (ih noChoice f).mono (Nat.zero_le _) (Nat.le_refl _)
    exact grows_repeated part min max greedy f

/-- A pattern takes little more room than its term. -/
theorem grows_wholeFootprint {r : Regex} (direction : Direction) (noChoice : r.hasChoice = false) :
    Grows (32 * r.textSize) (r.bulk + 208) {} (wholeFootprint direction r) := by
  have before (bound : Bool) : Grows 0 112 {} (if bound then ⟨1, 0⟩ else ⟨3, 16⟩) := by
    cases bound <;> exact ⟨by decide, by decide⟩
  cases direction with
  | forwards =>
    refine ((((before r.beginsText).trans (grows_add _ 1 0)).trans
      (grows_footprint .forwards noChoice _)).trans (grows_add _ 2 0)).mono ?_ ?_ <;> omega
  | backwards =>
    refine (((before r.endsText).trans (grows_footprint .backwards noChoice _)).trans
      (grows_add _ 1 0)).mono ?_ ?_ <;> omega

theorem isLongChoice_of_noChoice {r : Regex} (noChoice : r.hasChoice = false) :
    r.isLongChoice = false := by
  have only : r.alternatives = [r] := by
    cases r <;> first | rfl | contradiction
  rw [isLongChoice, texts?, only, List.mapM_cons, List.mapM_nil]
  cases r with
  | text t => cases t <;> rfl
  | _ => rfl

/-- A term whose bulk is within the limit is not too large. -/
theorem isTooLarge_of_bulk_le {r : Regex} (noChoice : r.hasChoice = false)
    (fits : r.bulk + 208 ≤ limit) : r.isTooLarge = false := by
  have within (direction : Direction) : (wholeFootprint direction r).isTooLarge = false := by
    have most := (grows_wholeFootprint direction noChoice).most
    have empty : ({} : Footprint).bytes = 0 := rfl
    exact decide_eq_false (by omega)
  rw [isTooLarge, within, within, Bool.or_self, Bool.and_false]

/-- A term with so much text that it exceeds the limit is too large. -/
theorem isTooLarge_of_textSize {r : Regex} (noChoice : r.hasChoice = false)
    (exceeds : limit < 32 * r.textSize) : r.isTooLarge = true := by
  have least := (grows_wholeFootprint .forwards noChoice).least
  have beyond : (wholeFootprint .forwards r).isTooLarge = true := decide_eq_true (by omega)
  rw [isTooLarge, isLongChoice_of_noChoice noChoice, beyond]
  rfl

/-- Whether a term is too large, found without a layout where its bulk tells. -/
def evaluateIsTooLarge (r : Regex) : Bool :=
  if r.hasChoice = false ∧ r.bulk + 208 ≤ limit then false else r.isTooLarge

theorem isTooLarge_eq_evaluate (r : Regex) : r.isTooLarge = r.evaluateIsTooLarge := by
  rw [evaluateIsTooLarge]
  split
  · rename_i small
    exact isTooLarge_of_bulk_le small.1 small.2
  · rfl

/-- The term that a pattern stands for, found without a layout where its bulk tells. -/
def evaluateOfText (modes : Modes) (pattern : Text) : Except PatternDefect Regex :=
  match parse? modes pattern with
  | none => .error .malformed
  | some r => if r.evaluateIsTooLarge then .error .tooLarge else .ok r

theorem ofText_eq_evaluate : ofText = evaluateOfText := by
  funext modes pattern
  rw [ofText, evaluateOfText]
  cases parse? modes pattern with
  | none => rfl
  | some r => simp only [isTooLarge_eq_evaluate]

/-- A term without a choice that holds texts of `size` bytes, and takes at most `rest` bytes besides
the room of these. -/
structure IsSized (size rest : Nat) (r : Regex) : Prop where
  noChoice : r.hasChoice = false
  size_le : size ≤ r.textSize
  bulk_le : r.bulk ≤ 32 * size + rest

theorem IsSized.fits {size rest : Nat} {r : Regex} (h : r.IsSized size rest)
    (few : 32 * size + rest ≤ 10485552) : r.isTooLarge = false := by
  refine isTooLarge_of_bulk_le h.noChoice ?_
  have most := h.bulk_le
  rw [limit]
  omega

theorem IsSized.exceeds {size rest : Nat} {r : Regex} (h : r.IsSized size rest)
    (many : 327680 < size) : r.isTooLarge = true := by
  refine isTooLarge_of_textSize h.noChoice ?_
  have least := h.size_le
  rw [limit]
  omega

/-- A text is too large if its bytes and the few nodes around them exceed the limit. -/
theorem isTooLarge_text {t : Text} : (text t).isTooLarge = true ↔ 327673 < Text.utf8Size t := by
  have forwards : (wholeFootprint .forwards (text t)).bytes =
      32 * max 1 (Text.utf8Size t) + 208 := by
    simp only [wholeFootprint, beginsText, footprint, addOption, Footprint.add, bytes,
      Bool.false_eq_true, if_false]
    omega
  have backwards : (wholeFootprint .backwards (text t)).bytes =
      32 * max 1 (Text.utf8Size t) + 144 := by
    simp only [wholeFootprint, endsText, footprint, addOption, Footprint.add, bytes,
      Bool.false_eq_true, if_false]
    omega
  have short : (text t).isLongChoice = false := isLongChoice_of_noChoice rfl
  simp only [isTooLarge, short, Footprint.isTooLarge, forwards, backwards, Bool.not_false,
    Bool.true_and, Bool.or_eq_true, decide_eq_true_eq, limit]
  omega

end Regex

end HookGraft

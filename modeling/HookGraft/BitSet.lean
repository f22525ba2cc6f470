/-!
# Sets of numbers

A set of natural numbers is kept as an array of words, with one bit for each number up to the
largest one that it holds.

## Main definitions

* `BitSet`: finite sets of natural numbers
* `BitSet.contains`, `BitSet.insert`: membership, and a set with one more member

## Main results

* `BitSet.contains_insert`: the members of a set with one more member
-/

namespace HookGraft

/-- A finite set of natural numbers. -/
structure BitSet where
  /-- bit `n % 32` of word `n / 32` is set if `n` is a member -/
  words : Array Nat

namespace BitSet

/-- The set without members. -/
def empty : BitSet := ⟨#[]⟩

/-- Whether a number is a member. -/
def contains (s : BitSet) (n : Nat) : Bool := (s.words.getD (n / 32) 0).testBit (n % 32)

/-- The set with one more member. -/
def insert (s : BitSet) (n : Nat) : BitSet :=
  let missing := n / 32 + 1 - s.words.size
  ⟨(s.words ++ Array.replicate missing 0).modify (n / 32) (· ||| 1 <<< (n % 32))⟩

@[simp] theorem contains_empty (n : Nat) : empty.contains n = false := by
  simp [empty, contains]

theorem getD_append_replicate (words : Array Nat) (missing i : Nat) :
    (words ++ Array.replicate missing 0).getD i 0 = words.getD i 0 := by
  simp only [Array.getD_eq_getD_getElem?, Array.getElem?_append, Array.getElem?_replicate]
  split
  · rfl
  · split <;> simp [*]

@[simp] theorem contains_insert (s : BitSet) (m n : Nat) :
    (s.insert m).contains n = (decide (m = n) || s.contains n) := by
  have hlt : m / 32 < (s.words ++ Array.replicate (m / 32 + 1 - s.words.size) 0).size := by
    simp only [Array.size_append, Array.size_replicate]
    omega
  have old := getD_append_replicate s.words (m / 32 + 1 - s.words.size)
  simp only [Array.getD_eq_getD_getElem?] at old
  simp only [contains, insert, Array.getD_eq_getD_getElem?, Array.getElem?_modify]
  by_cases hword : m / 32 = n / 32
  · rw [if_pos hword, ← hword, ← old (m / 32), Array.getElem?_eq_getElem hlt]
    simp only [Option.map_some, Option.getD_some, Nat.testBit_or, Nat.one_shiftLeft,
      Nat.testBit_two_pow]
    rw [Bool.or_comm]
    congr 1
    exact decide_eq_decide.mpr ⟨by omega, by omega⟩
  · rw [if_neg hword, old]
    have : m ≠ n := fun h => hword (h ▸ rfl)
    simp [this]

end BitSet

end HookGraft

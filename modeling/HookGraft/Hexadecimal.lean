import HookGraft.Text

/-!
# Numbers in base sixteen

## Main definitions

* `hexDigit?`, `hexNumber?`: the value of a digit and of a number
* `hexOf`: the lower case digit for a value
* `charOfCode?`: the character with a code point
-/

namespace HookGraft

/-- The value of a digit in base sixteen. -/
def hexDigit? (c : Char) : Option Nat :=
  if '0' ≤ c ∧ c ≤ '9' then some (c.toNat - '0'.toNat)
  else if 'a' ≤ c ∧ c ≤ 'f' then some (c.toNat - 'a'.toNat + 10)
  else if 'A' ≤ c ∧ c ≤ 'F' then some (c.toNat - 'A'.toNat + 10)
  else none

/-- The number written by digits in base sixteen, behind digits that have the value `n`. -/
def hexNumberFrom? (n : Nat) : Text → Option Nat
  | [] => some n
  | c :: rest =>
    match hexDigit? c with
    | some d => hexNumberFrom? (16 * n + d) rest
    | none => none

/-- The number written by digits in base sixteen. -/
def hexNumber? (digits : Text) : Option Nat := hexNumberFrom? 0 digits

/-- The lower case digit for a value below sixteen. -/
def hexOf (n : Nat) : Char :=
  if n < 10 then Char.ofNat ('0'.toNat + n) else Char.ofNat ('a'.toNat + (n - 10))

/-- The character with a given code point. -/
def charOfCode? (n : Nat) : Option Char :=
  if n.isValidChar then some (Char.ofNat n) else none

end HookGraft

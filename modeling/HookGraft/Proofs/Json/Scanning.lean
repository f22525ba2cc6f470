import HookGraft.Proofs.Fallible
import HookGraft.Proofs.Json.Grammar
import Mathlib.Data.List.DropRight

/-!
# Scanning what is of the grammar

A JSON text that is of the grammar is scanned to its end and no further, whatever stands behind it.
Only a number could go on: what follows it must not be a part of a number.

## Main definitions

* `Json.EndsNumber`: what may stand behind a number
* `Json.IsPassed`: what the functions that pass over values do with the texts of a kind

## Main results

* `Json.scanString_of_spells`: a string is read as the text that it spells
* `Json.scanNumber_of_parts`: a number is read to its end
* `Json.isPassed_of_isJson`: values of any kind, items and members are passed over
* `Json.skipValue_of_isJson`: a value is passed over up to the white space behind it
-/

namespace HookGraft.Json

variable {text rest gap seen : Text} {c : Char}

/-! ## White space -/

theorem skipSpace_append (space : IsSpace gap) (rest : Text) :
    skipSpace (gap ++ rest) = skipSpace rest :=
  List.dropWhile_append_of_pos fun c member => by simpa [or_assoc] using space c member

theorem skipSpace_cons (visible : ¬ IsSpace [c]) : skipSpace (c :: rest) = c :: rest := by
  refine List.dropWhile_cons_of_neg fun space => visible fun d member => ?_
  rw [List.mem_singleton.1 member]
  simpa [or_assoc] using space

theorem skipSpace_append_cons (space : IsSpace gap) (visible : ¬ IsSpace [c]) :
    skipSpace (gap ++ c :: rest) = c :: rest := by
  rw [skipSpace_append space, skipSpace_cons visible]

/-! ## Strings -/

theorem isNone_hexDigit?_of_mem {m n : Nat} (read : hexNumberFrom? m text = some n)
    (member : c ∈ text) : (hexDigit? c).isNone = false := by
  induction text generalizing m with
  | nil => contradiction
  | cons d text ih =>
    rw [hexNumberFrom?] at read
    cases digit : hexDigit? d with
    | none => simp [digit] at read
    | some value =>
      rw [digit] at read
      rcases List.mem_cons.1 member with rfl | later
      · rw [digit, Option.isNone_some]
      · exact ih read later

section Digits

variable {kept : Bool} {high : Option Nat} {digits early : Text} {n m : Nat}

/-- Digits are kept back until there are four. -/
theorem scanStringFrom_early {before : Text} (few : (before ++ early).length ≤ 3)
    (digit : ∀ c ∈ early, (hexDigit? c).isNone = false) :
    scanStringFrom kept (.digits high before) seen (early ++ rest) =
      scanStringFrom kept (.digits high (before ++ early)) seen rest := by
  induction early generalizing before with
  | nil => rw [List.nil_append, List.append_nil]
  | cons c early ih =>
    obtain ⟨first, others⟩ := List.forall_mem_cons.1 digit
    have room : before.length < 3 := by
      simp only [List.length_append, List.length_cons] at few
      omega
    rw [List.append_cons] at few ⊢
    rw [List.cons_append, scanStringFrom, first, if_neg Bool.false_ne_true, if_pos room,
      ih few others]

/-- All four digits, of which the last one decides. -/
theorem scanStringFrom_digits (unit : IsUnit digits n) : ∃ early last,
    hexNumber? (early ++ [last]) = some n ∧ ¬ early.length < 3 ∧
    (hexDigit? last).isNone = false ∧
    scanStringFrom kept (.digits high []) seen (digits ++ rest) =
      scanStringFrom kept (.digits high early) seen (last :: rest) := by
  obtain ⟨four, value⟩ := unit
  have digit {c : Char} (member : c ∈ digits) : (hexDigit? c).isNone = false :=
    isNone_hexDigit?_of_mem value member
  match digits, four with
  | [a, b, c, d], _ =>
    have few : ([] ++ [a, b, c] : Text).length ≤ 3 := Nat.le_refl 3
    refine ⟨[a, b, c], d, value, Nat.lt_irrefl 3, digit (by simp), ?_⟩
    exact scanStringFrom_early few fun e early => digit (List.mem_append_left [d] early)

theorem scanStringFrom_skipped (unit : IsUnit digits n) :
    scanStringFrom false (.digits high []) seen (digits ++ rest) =
      scanStringFrom false .between seen rest := by
  obtain ⟨early, last, -, full, digit, scanned⟩ := scanStringFrom_digits unit
  rw [scanned, scanStringFrom, digit, if_neg Bool.false_ne_true, if_neg full]
  rfl

theorem scanStringFrom_char (unit : IsUnit digits n) (char : unit? high n = some (.inl c)) :
    scanStringFrom true (.digits high []) seen (digits ++ rest) =
      scanStringFrom true .between (c :: seen) rest := by
  obtain ⟨early, last, value, full, digit, scanned⟩ := scanStringFrom_digits unit
  rw [scanned, scanStringFrom, digit, if_neg Bool.false_ne_true, if_neg full, value,
    Option.bind_some, char]
  rfl

theorem scanStringFrom_high (unit : IsUnit digits n) (first : unit? high n = some (.inr m)) :
    scanStringFrom true (.digits high []) seen (digits ++ rest) =
      scanStringFrom true (.high m) seen rest := by
  obtain ⟨early, last, value, full, digit, scanned⟩ := scanStringFrom_digits unit
  rw [scanned, scanStringFrom, digit, if_neg Bool.false_ne_true, if_neg full, value,
    Option.bind_some, first]
  rfl

end Digits

theorem isHighSurrogate_iff {n : Nat} : isHighSurrogate n = true ↔ 0xD800 ≤ n ∧ n ≤ 0xDBFF := by
  simp [isHighSurrogate]

theorem isLowSurrogate_iff {n : Nat} : isLowSurrogate n = true ↔ 0xDC00 ≤ n ∧ n ≤ 0xDFFF := by
  simp [isLowSurrogate]

/-- No character is a surrogate. -/
theorem unit?_toNat (c : Char) : unit? none c.toNat = some (.inl c) := by
  have valid : c.toNat < 0xD800 ∨ 0xDFFF < c.toNat ∧ c.toNat < 0x110000 := c.valid
  have high : ¬ isHighSurrogate c.toNat = true := by rw [isHighSurrogate_iff]; omega
  have low : ¬ isLowSurrogate c.toNat = true := by rw [isLowSurrogate_iff]; omega
  rw [unit?, if_neg low, if_neg high, Char.ofNat_toNat]

/-- A character beyond the first plane comes as a high surrogate and a low one. -/
theorem unit?_pair {n : Nat} (beyond : c.toNat = 0x10000 + n) :
    unit? none (0xD800 + n / 0x400) = some (.inr (0xD800 + n / 0x400)) ∧
      unit? (some (0xD800 + n / 0x400)) (0xDC00 + n % 0x400) = some (.inl c) := by
  have valid : c.toNat < 0xD800 ∨ 0xDFFF < c.toNat ∧ c.toNat < 0x110000 := c.valid
  have high : isHighSurrogate (0xD800 + n / 0x400) = true := by rw [isHighSurrogate_iff]; omega
  have notLow : ¬ isLowSurrogate (0xD800 + n / 0x400) = true := by rw [isLowSurrogate_iff]; omega
  have low : isLowSurrogate (0xDC00 + n % 0x400) = true := by rw [isLowSurrogate_iff]; omega
  have whole : (0xD800 + n / 0x400 - 0xD800) * 0x400 + (0xDC00 + n % 0x400 - 0xDC00) + 0x10000 =
      c.toNat := by omega
  rw [unit?, unit?, if_neg notLow, if_pos high, if_pos low, whole, Char.ofNat_toNat]
  exact ⟨rfl, rfl⟩

theorem shortEscape?_of_mem {letter : Char} (member : (letter, c) ∈ shortEscapes) :
    letter ≠ 'u' ∧ shortEscape? letter = some c := by
  have table : ∀ entry ∈ shortEscapes, entry.1 ≠ 'u' ∧ shortEscape? entry.1 = some entry.2 := by
    decide
  exact table (letter, c) member

theorem scanStringFrom_plain {kept : Bool} (plain : IsPlainChar c) :
    scanStringFrom kept .between seen (c :: rest) =
      scanStringFrom kept .between (c :: seen) rest := by
  obtain ⟨quote, backslash, printed⟩ := plain
  rw [scanStringFrom, if_neg quote, if_neg backslash, if_neg (Nat.not_lt.2 printed)]

theorem scanStringFrom_letter {kept : Bool} {letter : Char} (member : (letter, c) ∈ shortEscapes) :
    scanStringFrom kept .between seen ('\\' :: letter :: rest) =
      scanStringFrom kept .between (c :: seen) rest := by
  obtain ⟨other, short⟩ := shortEscape?_of_mem member
  simp [scanStringFrom, other, short]

theorem scanStringFrom_unit {kept : Bool} :
    scanStringFrom kept .between seen ('\\' :: 'u' :: rest) =
      scanStringFrom kept (.digits none []) seen rest := by
  simp [scanStringFrom]

/-- A character is read as it is spelled. -/
theorem scanStringFrom_of_spellsChar (spells : SpellsChar text c) :
    scanStringFrom true .between seen (text ++ rest) =
      scanStringFrom true .between (c :: seen) rest := by
  cases spells with
  | plain plain => exact scanStringFrom_plain plain
  | letter member => exact scanStringFrom_letter member
  | unit unit =>
    rw [List.cons_append, List.cons_append, scanStringFrom_unit,
      scanStringFrom_char unit (unit?_toNat c)]
  | pair beyond high low =>
    obtain ⟨first, second⟩ := unit?_pair beyond
    simp only [List.cons_append, List.append_assoc]
    rw [scanStringFrom_unit, scanStringFrom_high high first, scanStringFrom, if_pos rfl,
      scanStringFrom, if_pos rfl, scanStringFrom_char low second]

theorem scanStringFrom_of_spells {written : Text} (spells : Spells written text) :
    scanStringFrom true .between seen (written ++ '"' :: rest) =
      .ok (seen.reverse ++ text, rest) := by
  induction spells generalizing seen with
  | nil => simp [scanStringFrom]
  | cons first _ ih => rw [List.append_assoc, scanStringFrom_of_spellsChar first, ih]; simp

/-- A string is read as the text that it spells. -/
theorem scanString_of_spells {written : Text} (spells : Spells written text) :
    scanString (written ++ '"' :: rest) = .ok (text, rest) :=
  scanStringFrom_of_spells spells

theorem exists_scanStringFrom (body : IsStringBody text) (seen rest : Text) :
    ∃ read, scanStringFrom false .between seen (text ++ '"' :: rest) = .ok (read, rest) := by
  induction body generalizing seen with
  | nil => exact ⟨seen.reverse, by simp [scanStringFrom]⟩
  | plain plain _ ih => rw [List.cons_append, scanStringFrom_plain plain]; exact ih _
  | letter member _ ih =>
    rw [List.cons_append, List.cons_append, scanStringFrom_letter member]; exact ih _
  | unit unit _ ih =>
    rw [List.cons_append, List.cons_append, List.append_assoc, scanStringFrom_unit,
      scanStringFrom_skipped unit]
    exact ih _

theorem skipString_of_body (body : IsStringBody text) :
    skipString (text ++ '"' :: rest) = .ok rest := by
  obtain ⟨read, scanned⟩ := exists_scanStringFrom body [] rest
  rw [skipString, scanned]
  rfl

/-! ## Numbers -/

section Numbers

variable (atEnd : JsonDefect)

/-- What may stand behind a number: nothing that could be a part of it. -/
def EndsNumber (rest : Text) : Prop :=
  ∀ c ∈ rest.head?, c.isDigit = false ∧ c ≠ '.' ∧ c ≠ 'e' ∧ c ≠ 'E'

theorem scanDigits_append {digits : Text} (proper : IsDigits digits)
    (ends : ∀ c ∈ rest.head?, c.isDigit = false) :
    scanDigits atEnd (digits ++ rest) = .ok (digits, rest) := by
  obtain ⟨some, all⟩ := proper
  obtain ⟨c, digits, rfl⟩ := List.exists_cons_of_ne_nil some
  obtain ⟨first, others⟩ := List.forall_mem_cons.1 all
  have stops : rest.takeWhile Char.isDigit = [] ∧ rest.dropWhile Char.isDigit = rest := by
    cases rest with
    | nil => exact ⟨rfl, rfl⟩
    | cons d rest => simp [ends d rfl]
  rw [List.cons_append, scanDigits, if_pos first, List.takeWhile_append_of_pos others,
    List.dropWhile_append_of_pos others, stops.1, stops.2, List.append_nil]

theorem scanFraction_append {fraction : Text} (proper : IsFraction fraction)
    (ends : ∀ c ∈ rest.head?, c.isDigit = false ∧ c ≠ '.') :
    ∃ digits, scanFraction atEnd (fraction ++ rest) = .ok (digits, rest) := by
  rcases proper with rfl | ⟨digits, proper, rfl⟩
  · refine ⟨[], ?_⟩
    rw [List.nil_append, scanFraction]
    · rintro rest rfl
      exact (ends '.' rfl).2 rfl
  · exact ⟨digits, scanDigits_append atEnd proper fun c head => (ends c head).1⟩

theorem scanExponent_append {exponent : Text} (proper : IsExponent exponent)
    (ends : EndsNumber rest) : ∃ n, scanExponent atEnd (exponent ++ rest) = .ok (n, rest) := by
  rcases proper with rfl | ⟨letter, sign, digits, isLetter, isSign, proper, rfl⟩
  · refine ⟨0, ?_⟩
    rw [List.nil_append, scanExponent]
    · rintro rest rfl
      exact (ends 'e' rfl).2.2.1 rfl
    · rintro rest rfl
      exact (ends 'E' rfl).2.2.2 rfl
  · have read := scanDigits_append atEnd proper fun c head => (ends c head).1
    obtain ⟨c, more, rfl⟩ := List.exists_cons_of_ne_nil proper.1
    have digit : c.isDigit = true := proper.2 c List.mem_cons_self
    have notMinus : c ≠ '-' := by rintro rfl; contradiction
    have notPlus : c ≠ '+' := by rintro rfl; contradiction
    rw [List.cons_append] at read
    rcases isSign with rfl | rfl | rfl
    · refine ⟨decimalValue (c :: more), ?_⟩
      rcases isLetter with rfl | rfl <;>
        simp [scanExponent, notMinus, notPlus, read, Functor.map, Except.map]
    · refine ⟨decimalValue (c :: more), ?_⟩
      rcases isLetter with rfl | rfl <;> simp [scanExponent, read, Functor.map, Except.map]
    · refine ⟨-decimalValue (c :: more), ?_⟩
      rcases isLetter with rfl | rfl <;> simp [scanExponent, read, Functor.map, Except.map]

theorem EndsNumber.of_exponent {exponent : Text} (proper : IsExponent exponent)
    (ends : EndsNumber rest) : ∀ c ∈ (exponent ++ rest).head?, c.isDigit = false ∧ c ≠ '.' := by
  rcases proper with rfl | ⟨letter, sign, digits, rfl | rfl, -, -, rfl⟩
  · exact fun c head => ⟨(ends c head).1, (ends c head).2.1⟩
  · simp
  · simp

theorem not_digit_of_fraction {fraction : Text} (proper : IsFraction fraction)
    (ends : ∀ c ∈ rest.head?, c.isDigit = false ∧ c ≠ '.') :
    ∀ c ∈ (fraction ++ rest).head?, c.isDigit = false := by
  rcases proper with rfl | ⟨digits, -, rfl⟩
  · exact fun c head => (ends c head).1
  · simp

/-- A number is read to its end. -/
theorem scanNumber_of_parts {whole fraction exponent : Text} (digits : IsDigits whole)
    (zero : whole.head? = some '0' → whole = ['0']) (hasFraction : IsFraction fraction)
    (hasExponent : IsExponent exponent) (ends : EndsNumber rest) :
    ∃ parts, scanNumber atEnd (whole ++ (fraction ++ (exponent ++ rest))) = .ok (parts, rest) := by
  have behind := ends.of_exponent hasExponent
  have first := scanDigits_append atEnd digits (not_digit_of_fraction hasFraction behind)
  obtain ⟨decimals, second⟩ := scanFraction_append atEnd hasFraction behind
  obtain ⟨power, third⟩ := scanExponent_append atEnd hasExponent ends
  have single : ¬ (whole.head? = some '0' ∧ 1 < whole.length) := by
    rintro ⟨head, longer⟩
    rw [zero head] at longer
    exact Nat.lt_irrefl 1 longer
  refine ⟨{ whole, fraction := decimals, exponent := power }, ?_⟩
  simp only [scanNumber, first, second, third, Except.ok_bind, if_neg single]
  rfl

theorem IsNumber.length_pos (number : IsNumber text) : 0 < text.length := by
  obtain ⟨-, digits, -, -, -⟩ := number
  have proper := List.length_pos_iff.2 digits.1
  simp only [List.length_append]
  omega

end Numbers

/-! ## Values of any kind -/

variable {fuel : Nat}

theorem EndsNumber.cons (digit : c.isDigit = false) (other : c ≠ '.' ∧ c ≠ 'e' ∧ c ≠ 'E') :
    EndsNumber (c :: rest) := by
  rintro d head
  obtain rfl := Option.some.inj head
  exact ⟨digit, other⟩

/-- White space does not go on with a number. -/
theorem EndsNumber.of_space (space : IsSpace gap) (ends : EndsNumber rest) :
    EndsNumber (gap ++ rest) := by
  cases gap with
  | nil => exact ends
  | cons c gap =>
    rcases space c List.mem_cons_self with rfl | rfl | rfl | rfl <;> exact .cons rfl (by decide)

theorem skipSpace_skipSpace (text : Text) : skipSpace (skipSpace text) = skipSpace text :=
  List.dropWhile_idempotent _ text

theorem skipValueIn_skipSpace : skipValueIn fuel (skipSpace text) = skipValueIn fuel text := by
  cases fuel with
  | zero => rfl
  | succ fuel => simp only [skipValueIn, skipSpace_skipSpace]

theorem skipItemsIn_skipSpace : skipItemsIn fuel (skipSpace text) = skipItemsIn fuel text := by
  cases fuel with
  | zero => rfl
  | succ fuel => simp only [skipItemsIn, skipValueIn_skipSpace]

theorem skipMembersIn_skipSpace :
    skipMembersIn fuel (skipSpace text) = skipMembersIn fuel text := by
  cases fuel with
  | zero => rfl
  | succ fuel => simp only [skipMembersIn, skipSpace_skipSpace]

/-- White space before a value is passed over with it. -/
theorem skipValueIn_append (space : IsSpace gap) (rest : Text) :
    skipValueIn fuel (gap ++ rest) = skipValueIn fuel rest := by
  rw [← skipValueIn_skipSpace, skipSpace_append space, skipValueIn_skipSpace]

theorem skipValueIn_digit (digit : c.isDigit = true) : skipValueIn (fuel + 1) (c :: text) =
    scanNumber .malformed (c :: text) >>= fun read => .ok read.2 := by
  have visible : ¬ IsSpace [c] := fun space => by
    rcases space c List.mem_cons_self with rfl | rfl | rfl | rfl <;> contradiction
  rw [skipValueIn, skipSpace_cons visible]
  split
  case h_9 same =>
    obtain ⟨rfl, rfl⟩ := List.cons.inj same
    rw [if_pos digit]
    rfl
  all_goals
    rename_i same
    first | contradiction | (obtain ⟨rfl, -⟩ := List.cons.inj same; contradiction)

theorem skipValueIn_minus : skipValueIn (fuel + 1) ('-' :: text) =
    scanNumber .malformed text >>= fun read => .ok read.2 := rfl

theorem skipValueIn_array : skipValueIn (fuel + 1) ('[' :: text) =
    match skipSpace text with
    | ']' :: rest => .ok rest
    | rest => skipItemsIn fuel rest := rfl

theorem skipValueIn_object : skipValueIn (fuel + 1) ('\x7b' :: text) =
    match skipSpace text with
    | '\x7d' :: rest => .ok rest
    | rest => skipMembersIn fuel rest := rfl

section Parts

variable (space : IsSpace gap)
include space

theorem skipItemsIn_last (passed : skipValueIn fuel text = .ok (gap ++ ']' :: rest)) :
    skipItemsIn (fuel + 1) text = .ok rest := by
  rw [skipItemsIn, passed, Except.ok_bind, skipSpace_append_cons space (by decide)]
  rfl

theorem skipItemsIn_next (passed : skipValueIn fuel text = .ok (gap ++ ',' :: rest)) :
    skipItemsIn (fuel + 1) text = skipItemsIn fuel rest := by
  rw [skipItemsIn, passed, Except.ok_bind, skipSpace_append_cons space (by decide)]
  rfl

variable {before key after : Text} (space' : IsSpace before) (body : IsStringBody key)
  (space'' : IsSpace after)
include space' body space''

theorem skipMembersIn_last (passed : skipValueIn fuel text = .ok (after ++ '\x7d' :: rest)) :
    skipMembersIn (fuel + 1) (before ++ '"' :: (key ++ '"' :: (gap ++ ':' :: text))) =
      .ok rest := by
  simp only [skipMembersIn, skipSpace_append_cons space' (c := '"') (by decide),
    skipString_of_body body, skipSpace_append_cons space (c := ':') (by decide), passed,
    skipSpace_append_cons space'' (c := '\x7d') (by decide), Except.ok_bind]

theorem skipMembersIn_next (passed : skipValueIn fuel text = .ok (after ++ ',' :: rest)) :
    skipMembersIn (fuel + 1) (before ++ '"' :: (key ++ '"' :: (gap ++ ':' :: text))) =
      skipMembersIn fuel rest := by
  simp only [skipMembersIn, skipSpace_append_cons space' (c := '"') (by decide),
    skipString_of_body body, skipSpace_append_cons space (c := ':') (by decide), passed,
    skipSpace_append_cons space'' (c := ',') (by decide), Except.ok_bind]

end Parts

/-- No item begins with a closing bracket. -/
theorem skipItemsIn_closing : skipItemsIn fuel (']' :: text) ≠ .ok rest := by
  match fuel with
  | 0 => nofun
  | 1 => nofun
  | fuel + 2 => nofun

/-- No member begins with a closing brace. -/
theorem skipMembersIn_closing : skipMembersIn fuel ('\x7d' :: text) ≠ .ok rest := by
  match fuel with
  | 0 => nofun
  | fuel + 1 => nofun

/-- What passing over the texts of a kind comes to, with fuel enough. An item or a member takes one
step itself and another one for its value, so there are two for each character. -/
def IsPassed : Kind → Text → Prop
  | .value, text => ∀ fuel rest, 2 * text.length ≤ fuel → EndsNumber rest →
      ∃ gap, IsSpace gap ∧ skipValueIn fuel (text ++ rest) = .ok (gap ++ rest)
  | .items, text => ∀ fuel rest, 2 * text.length < fuel →
      skipItemsIn fuel (text ++ ']' :: rest) = .ok rest
  | .members, text => ∀ fuel rest, 2 * text.length < fuel →
      skipMembersIn fuel (text ++ '\x7d' :: rest) = .ok rest

/-- A value that is passed over exactly, if there is fuel for one step more. -/
theorem isPassed_value (positive : 0 < text.length)
    (passed : ∀ fuel rest, 2 * text.length ≤ fuel + 1 → EndsNumber rest →
      skipValueIn (fuel + 1) (text ++ rest) = .ok rest) : IsPassed .value text := by
  intro fuel rest enough ends
  obtain ⟨fuel, rfl⟩ : ∃ less, fuel = less + 1 := ⟨fuel - 1, by omega⟩
  exact ⟨[], .nil, passed fuel rest enough ends⟩

theorem isPassed_number (number : IsNumber text) : IsPassed .value text := by
  refine isPassed_value number.length_pos fun fuel rest _ ends => ?_
  obtain ⟨isSign, digits, zero, hasFraction, hasExponent⟩ := number
  obtain ⟨parts, read⟩ := scanNumber_of_parts .malformed digits zero hasFraction hasExponent ends
  simp only [List.append_assoc]
  rcases isSign with rfl | rfl
  · obtain ⟨c, more, rfl⟩ := List.exists_cons_of_ne_nil digits.1
    rw [List.cons_append] at read
    have digit : c.isDigit = true := digits.2 c List.mem_cons_self
    rw [List.nil_append, List.cons_append, skipValueIn_digit digit, read]
    rfl
  · rw [List.singleton_append, skipValueIn_minus, read]
    rfl

theorem isPassed_array (items : IsPassed .items text) : IsPassed .value ('[' :: (text ++ [']'])) := by
  refine isPassed_value Nat.succ_pos' fun fuel rest enough _ => ?_
  simp only [List.length_cons, List.length_append] at enough
  have passed := items fuel rest (by omega)
  rw [← skipItemsIn_skipSpace] at passed
  rw [List.cons_append, List.append_assoc, List.singleton_append, skipValueIn_array]
  split
  · rename_i closed
    rw [closed] at passed
    exact absurd passed skipItemsIn_closing
  · exact passed

theorem isPassed_object (members : IsPassed .members text) :
    IsPassed .value ('\x7b' :: (text ++ ['\x7d'])) := by
  refine isPassed_value Nat.succ_pos' fun fuel rest enough _ => ?_
  simp only [List.length_cons, List.length_append] at enough
  have passed := members fuel rest (by omega)
  rw [← skipMembersIn_skipSpace] at passed
  rw [List.cons_append, List.append_assoc, List.singleton_append, skipValueIn_object]
  split
  · rename_i closed
    rw [closed] at passed
    exact absurd passed skipMembersIn_closing
  · exact passed

/-- Values of any kind, items and members are passed over. -/
theorem isPassed_of_isJson {kind : Kind} (json : IsJson kind text) : IsPassed kind text := by
  induction json with
  | word member =>
    simp only [List.mem_cons, List.not_mem_nil, or_false] at member
    rcases member with rfl | rfl | rfl <;> exact isPassed_value (by decide) fun _ _ _ _ => rfl
  | number number => exact isPassed_number number
  | string body =>
    refine isPassed_value Nat.succ_pos' fun fuel rest _ _ => ?_
    rw [List.cons_append, List.append_assoc]
    exact skipString_of_body body
  | emptyArray space =>
    refine isPassed_value Nat.succ_pos' fun fuel rest _ _ => ?_
    rw [List.cons_append, List.append_assoc, skipValueIn_array, skipSpace_append space]
    rfl
  | array _ ih => exact isPassed_array ih
  | emptyObject space =>
    refine isPassed_value Nat.succ_pos' fun fuel rest _ _ => ?_
    rw [List.cons_append, List.append_assoc, skipValueIn_object, skipSpace_append space]
    rfl
  | object _ ih => exact isPassed_object ih
  | spaced space _ space' ih =>
    intro fuel rest enough ends
    simp only [List.length_append] at enough
    obtain ⟨gap, space'', passed⟩ := ih fuel _ (by omega) (ends.of_space space')
    refine ⟨_, space''.append space', ?_⟩
    rw [List.append_assoc, List.append_assoc, skipValueIn_append space, passed, List.append_assoc]
  | lastItem _ ih =>
    intro fuel rest enough
    obtain ⟨fuel, rfl⟩ : ∃ less, fuel = less + 1 := ⟨fuel - 1, by omega⟩
    obtain ⟨gap, space, passed⟩ := ih fuel (']' :: rest) (by omega) (.cons rfl (by decide))
    exact skipItemsIn_last space passed
  | item _ _ ih ih' =>
    intro fuel rest enough
    simp only [List.length_append, List.length_cons] at enough
    obtain ⟨fuel, rfl⟩ : ∃ less, fuel = less + 1 := ⟨fuel - 1, by omega⟩
    obtain ⟨gap, space, passed⟩ := ih fuel (',' :: _) (by omega) (.cons rfl (by decide))
    rw [List.append_assoc, List.cons_append, skipItemsIn_next space passed]
    exact ih' fuel rest (by omega)
  | lastMember space body space' _ ih =>
    intro fuel rest enough
    simp only [List.length_append, List.length_cons] at enough
    obtain ⟨fuel, rfl⟩ : ∃ less, fuel = less + 1 := ⟨fuel - 1, by omega⟩
    obtain ⟨gap, space'', passed⟩ := ih fuel ('\x7d' :: rest) (by omega) (.cons rfl (by decide))
    simp only [List.append_assoc, List.cons_append]
    exact skipMembersIn_last space' space body space'' passed
  | member space body space' _ _ ih ih' =>
    intro fuel rest enough
    simp only [List.length_append, List.length_cons] at enough
    obtain ⟨fuel, rfl⟩ : ∃ less, fuel = less + 1 := ⟨fuel - 1, by omega⟩
    obtain ⟨gap, space'', passed⟩ := ih fuel (',' :: _) (by omega) (.cons rfl (by decide))
    simp only [List.append_assoc, List.cons_append]
    rw [skipMembersIn_next space' space body space'' passed]
    exact ih' fuel rest (by omega)

/-- A value is passed over up to the white space behind it. -/
theorem skipValue_of_isJson (json : IsJson .value text) (ends : EndsNumber rest) :
    ∃ gap, IsSpace gap ∧ skipValue (text ++ rest) = .ok (gap ++ rest) :=
  isPassed_of_isJson json _ rest (by rw [List.length_append]; omega) ends

end HookGraft.Json

import HookGraft.Json.Scanner
import HookGraft.Json.Value

/-!
# The grammar of JSON texts

What a JSON text is, said without the functions that read or write one: white space, strings in all
their spellings, numbers, and values of any kind.

## Main definitions

* `Json.IsSpace`: white space
* `Json.Spells`: a text as it may be written between quotation marks
* `Json.IsStringBody`: what may stand between quotation marks, whether or not it spells a text
* `Json.IsNumber`: the numbers
* `Json.IsJson`: values of any kind, with white space around them

## Main results

* `Json.spells_quoteChar`: a text is spelled by its form between quotation marks
-/

namespace HookGraft.Json

/-- White space between the parts of a JSON text. -/
def IsSpace (text : Text) : Prop := ∀ c ∈ text, c = ' ' ∨ c = '\n' ∨ c = '\t' ∨ c = '\r'

instance : DecidablePred IsSpace := fun text => List.decidableBAll _ text

theorem IsSpace.nil : IsSpace [] := nofun

theorem IsSpace.append {gap more : Text} (space : IsSpace gap) (also : IsSpace more) :
    IsSpace (gap ++ more) :=
  fun c member => (List.mem_append.1 member).elim (space c) (also c)

/-! ## Strings -/

/-- The letters that stand behind a backslash, with the characters that they stand for. -/
def shortEscapes : List (Char × Char) :=
  [('"', '"'), ('\\', '\\'), ('/', '/'), ('b', '\x08'), ('f', '\x0c'), ('n', '\n'), ('r', '\r'),
   ('t', '\t')]

/-- The characters that stand for themselves between quotation marks. -/
def IsPlainChar (c : Char) : Prop := c ≠ '"' ∧ c ≠ '\\' ∧ 32 ≤ c.toNat

instance : DecidablePred IsPlainChar := fun _ => inferInstanceAs (Decidable (_ ∧ _ ∧ _))

/-- A text of such characters. -/
def IsPlainText (text : Text) : Prop := ∀ c ∈ text, IsPlainChar c

instance : DecidablePred IsPlainText := fun text => List.decidableBAll _ text

/-- Four digits in base sixteen, and their value. -/
def IsUnit (digits : Text) (n : Nat) : Prop := digits.length = 4 ∧ hexNumber? digits = some n

instance (digits : Text) (n : Nat) : Decidable (IsUnit digits n) :=
  inferInstanceAs (Decidable (_ ∧ _))

/-- How a character may be written: as it is, by a letter, or by its units in UTF-16. -/
inductive SpellsChar : Text → Char → Prop where
  | plain {c : Char} : IsPlainChar c → SpellsChar [c] c
  | letter {letter c : Char} : (letter, c) ∈ shortEscapes → SpellsChar ['\\', letter] c
  | unit {digits : Text} {c : Char} : IsUnit digits c.toNat → SpellsChar ('\\' :: 'u' :: digits) c
  | pair {high low : Text} {c : Char} {n : Nat} :
      c.toNat = 0x10000 + n → IsUnit high (0xD800 + n / 0x400) → IsUnit low (0xDC00 + n % 0x400) →
      SpellsChar ('\\' :: 'u' :: (high ++ '\\' :: 'u' :: low)) c

/-- How a text may be written between quotation marks. -/
inductive Spells : Text → Text → Prop where
  | nil : Spells [] []
  | cons {written rest text : Text} {c : Char} :
      SpellsChar written c → Spells rest text → Spells (written ++ rest) (c :: text)

/-- What may stand between quotation marks. Surrogates need not be paired. -/
inductive IsStringBody : Text → Prop where
  | nil : IsStringBody []
  | plain {c : Char} {rest : Text} : IsPlainChar c → IsStringBody rest → IsStringBody (c :: rest)
  | letter {letter c : Char} {rest : Text} :
      (letter, c) ∈ shortEscapes → IsStringBody rest → IsStringBody ('\\' :: letter :: rest)
  | unit {digits rest : Text} {n : Nat} :
      IsUnit digits n → IsStringBody rest → IsStringBody ('\\' :: 'u' :: (digits ++ rest))

/-! ## Numbers -/

/-- Decimal digits, of which there is one at least. -/
def IsDigits (text : Text) : Prop := text ≠ [] ∧ ∀ c ∈ text, c.isDigit = true

instance : DecidablePred IsDigits := fun text =>
  @instDecidableAnd _ _ _ (List.decidableBAll _ text)

/-- A point and digits, or nothing. -/
def IsFraction (text : Text) : Prop := text = [] ∨ ∃ digits, IsDigits digits ∧ text = '.' :: digits

/-- An exponent with or without a sign, or nothing. -/
def IsExponent (text : Text) : Prop :=
  text = [] ∨ ∃ letter sign digits, (letter = 'e' ∨ letter = 'E') ∧
    (sign = [] ∨ sign = ['+'] ∨ sign = ['-']) ∧ IsDigits digits ∧ text = letter :: (sign ++ digits)

/-- The numbers. No further digit follows a leading zero. -/
inductive IsNumber : Text → Prop where
  | parts {sign whole fraction exponent : Text} :
      (sign = [] ∨ sign = ['-']) → IsDigits whole → (whole.head? = some '0' → whole = ['0']) →
      IsFraction fraction → IsExponent exponent →
      IsNumber (sign ++ (whole ++ (fraction ++ exponent)))

/-! ## Values of any kind -/

/-- The kinds of texts that values are made of. -/
inductive Kind where
  | value
  | items
  | members

/-- Values, the items of arrays and the members of objects, with white space around them. -/
inductive IsJson : Kind → Text → Prop where
  | word {word : String} : word ∈ ["null", "true", "false"] → IsJson .value word.toList
  | number {text : Text} : IsNumber text → IsJson .value text
  | string {text : Text} : IsStringBody text → IsJson .value ('"' :: (text ++ ['"']))
  | emptyArray {gap : Text} : IsSpace gap → IsJson .value ('[' :: (gap ++ [']']))
  | array {text : Text} : IsJson .items text → IsJson .value ('[' :: (text ++ [']']))
  | emptyObject {gap : Text} : IsSpace gap → IsJson .value ('\x7b' :: (gap ++ ['\x7d']))
  | object {text : Text} : IsJson .members text → IsJson .value ('\x7b' :: (text ++ ['\x7d']))
  | spaced {before text after : Text} :
      IsSpace before → IsJson .value text → IsSpace after →
      IsJson .value (before ++ (text ++ after))
  | lastItem {text : Text} : IsJson .value text → IsJson .items text
  | item {text rest : Text} :
      IsJson .value text → IsJson .items rest → IsJson .items (text ++ ',' :: rest)
  | lastMember {before key gap text : Text} :
      IsSpace before → IsStringBody key → IsSpace gap → IsJson .value text →
      IsJson .members (before ++ '"' :: (key ++ '"' :: (gap ++ ':' :: text)))
  | member {before key gap text rest : Text} :
      IsSpace before → IsStringBody key → IsSpace gap → IsJson .value text →
      IsJson .members rest →
      IsJson .members (before ++ '"' :: (key ++ '"' :: (gap ++ ':' :: (text ++ ',' :: rest))))

/-! ## What is written -/

/-- Characters that stand for themselves spell themselves. -/
theorem spells_of_plain {text : Text} (plain : IsPlainText text) : Spells text text := by
  induction text with
  | nil => exact .nil
  | cons c rest ih =>
    obtain ⟨first, others⟩ := List.forall_mem_cons.1 plain
    exact .cons (.plain first) (ih others)

/-- The two digits of a control character of the lower block. -/
theorem isUnit_control : ∀ n < 32, IsUnit ['0', '0', hexOf (n / 16), hexOf (n % 16)] n := by
  decide

theorem spellsChar_quoteChar (c : Char) : SpellsChar (JsonValue.quoteChar c) c := by
  unfold JsonValue.quoteChar
  split
  case h_8 quote backslash _ _ _ _ _ =>
    split
    · rename_i control
      exact .unit (isUnit_control c.toNat control)
    · rename_i printed
      exact .plain ⟨quote, backslash, Nat.le_of_not_lt printed⟩
  all_goals exact .letter (by decide)

/-- A text is spelled by its form between quotation marks. -/
theorem spells_quoteChar (text : Text) : Spells (text.flatMap JsonValue.quoteChar) text := by
  induction text with
  | nil => exact .nil
  | cons c rest ih => exact .cons (spellsChar_quoteChar c) ih

end HookGraft.Json

import HookGraft.Hexadecimal
import HookGraft.PatchError

/-!
# Scanning JSON texts

A JSON text is read from left to right, and the first thing that is wrong decides what is reported:
that the text ends too early, that it is no JSON, or that it holds other data than was asked for.
Each function takes the text from some place on, and yields what remains of it.

## Main definitions

* `Json.scanString`: the text between quotation marks
* `Json.scanNumber`: the parts of a number
* `Json.skipValue`: passes over a value of any kind
* `Json.mismatch`: what is reported of a value of the wrong kind
-/

namespace HookGraft.Json

/-- Passes over white space. -/
def skipSpace (text : Text) : Text :=
  text.dropWhile fun c => c == ' ' || c == '\n' || c == '\t' || c == '\r'

/-- Passes over the characters of a word. -/
def skipWord : (word text : Text) → Except JsonDefect Text
  | [], text => .ok text
  | _ :: _, [] => .error .endsEarly
  | w :: word, c :: text => if w = c then skipWord word text else .error .malformed

/-! ## Strings -/

/-- What a letter after a backslash stands for. -/
def shortEscape? (c : Char) : Option Char :=
  match c with
  | '"' => some '"'
  | '\\' => some '\\'
  | '/' => some '/'
  | 'b' => some '\x08'
  | 'f' => some '\x0c'
  | 'n' => some '\n'
  | 'r' => some '\r'
  | 't' => some '\t'
  | _ => none

/-- How far a character of a string has been read. A code point beyond the first plane is written
as two surrogates, of which the high one comes first. -/
inductive StringStage where
  | between
  /-- a backslash -/
  | escape
  /-- a backslash, the letter `u` and some digits, perhaps behind a high surrogate -/
  | digits (high : Option Nat) (seen : Text)
  /-- a high surrogate -/
  | high (high : Nat)
  /-- a high surrogate and a backslash -/
  | highEscape (high : Nat)
  deriving DecidableEq

/-- Whether a number is a high surrogate. -/
def isHighSurrogate (n : Nat) : Bool := 0xD800 ≤ n && n ≤ 0xDBFF

/-- Whether a number is a low surrogate. -/
def isLowSurrogate (n : Nat) : Bool := 0xDC00 ≤ n && n ≤ 0xDFFF

/-- What four digits stand for, perhaps behind a high surrogate: a character, or a high
surrogate. -/
def unit? (high : Option Nat) (n : Nat) : Option (Char ⊕ Nat) :=
  match high with
  | none =>
    if isLowSurrogate n then none
    else if isHighSurrogate n then some (.inr n)
    else some (.inl (Char.ofNat n))
  | some high =>
    if isLowSurrogate n then
      some (.inl (Char.ofNat ((high - 0xD800) * 0x400 + (n - 0xDC00) + 0x10000)))
    else none

/-- Reads a string to its closing quotation mark. What has been read is kept in reverse. If the
string is not `kept`, surrogates need not be paired. -/
def scanStringFrom (kept : Bool) : StringStage → (seen : Text) → Text →
    Except JsonDefect (Text × Text)
  | _, _, [] => .error .endsEarly
  | .between, seen, c :: rest =>
    if c = '"' then .ok (seen.reverse, rest)
    else if c = '\\' then scanStringFrom kept .escape seen rest
    else if c.toNat < 32 then .error .malformed
    else scanStringFrom kept .between (c :: seen) rest
  | .escape, seen, c :: rest =>
    if c = 'u' then scanStringFrom kept (.digits none []) seen rest
    else
      match shortEscape? c with
      | some d => scanStringFrom kept .between (d :: seen) rest
      | none => .error .malformed
  | .digits high digits, seen, c :: rest =>
    if (hexDigit? c).isNone then
      -- four bytes are taken at once, and only then looked at
      if digits.length + Text.utf8Size (c :: rest) < 4 then .error .endsEarly
      else .error .malformed
    else if digits.length < 3 then scanStringFrom kept (.digits high (digits ++ [c])) seen rest
    else if !kept then scanStringFrom kept .between seen rest
    else
      match (hexNumber? (digits ++ [c])).bind (unit? high) with
      | some (.inl d) => scanStringFrom kept .between (d :: seen) rest
      | some (.inr high) => scanStringFrom kept (.high high) seen rest
      | none => .error .malformed
  | .high high, seen, c :: rest =>
    if c = '\\' then scanStringFrom kept (.highEscape high) seen rest else .error .malformed
  | .highEscape high, seen, c :: rest =>
    if c = 'u' then scanStringFrom kept (.digits (some high) []) seen rest
    else .error .malformed

/-- Reads a string behind its opening quotation mark. -/
def scanString (text : Text) : Except JsonDefect (Text × Text) :=
  scanStringFrom true .between [] text

/-- Passes over a string behind its opening quotation mark. -/
def skipString (text : Text) : Except JsonDefect Text := do
  return (← scanStringFrom false .between [] text).2

/-! ## Numbers -/

/-- A number without its sign: the digits before and after the point, and the exponent. -/
structure NumberParts where
  whole : Text
  fraction : Text := []
  exponent : Int := 0
  deriving DecidableEq

/-- The number written by decimal digits. -/
def decimalValue (digits : Text) : Nat :=
  digits.foldl (fun n d => 10 * n + (d.toNat - '0'.toNat)) 0

/-- Extends a value by digits as long as it stays below 2^64. The remaining digits come second. -/
def takeDigits (value : Nat) : Text → Nat × Text
  | [] => (value, [])
  | d :: rest =>
    let next := 10 * value + (d.toNat - '0'.toNat)
    if next < UInt64.size then takeDigits next rest else (value, d :: rest)

/-- The number closest to `n` among those that have 53 significant bits, the even one of two. -/
def roundToDouble (n : Nat) : Nat :=
  let unit := Nat.pow 2 (n.log2 - 52)
  let below := n / unit
  let remainder := n % unit
  let up := unit < 2 * remainder ∨ 2 * remainder = unit ∧ below % 2 = 1
  (if up then below + 1 else below) * unit

/-- Whether a number lies beyond the range of double precision. Of its digits only those count that
fit into 64 bits. They and the power of ten are rounded before they are multiplied, and the product
is out of range if it would be rounded to 2^1024. -/
def NumberParts.isHuge (n : NumberParts) : Bool :=
  let (value, passedOver) := takeDigits 0 n.whole
  let (value, ignored) := takeDigits value n.fraction
  let exponent := n.exponent + passedOver.length - (n.fraction.length - ignored.length : Nat)
  if value = 0 ∨ exponent < 0 then false
  else if 308 < exponent then true
  else
    let power := Nat.pow 10 exponent.toNat
    Nat.pow 2 1024 - Nat.pow 2 970 ≤ roundToDouble value * roundToDouble power

/-- Reads digits, of which there has to be one at least. If the text ends instead, `atEnd` is
reported. -/
def scanDigits (atEnd : JsonDefect) (text : Text) : Except JsonDefect (Text × Text) :=
  match text with
  | [] => .error atEnd
  | c :: rest =>
    if c.isDigit then .ok (c :: rest.takeWhile Char.isDigit, rest.dropWhile Char.isDigit)
    else .error .malformed

/-- Reads an exponent, if there is one. -/
def scanExponent (atEnd : JsonDefect) (text : Text) : Except JsonDefect (Int × Text) :=
  match text with
  | 'e' :: rest | 'E' :: rest =>
    match rest with
    | '-' :: rest => do
      let (digits, rest) ← scanDigits atEnd rest
      return (-decimalValue digits, rest)
    | '+' :: rest => do
      let (digits, rest) ← scanDigits atEnd rest
      return (decimalValue digits, rest)
    | rest => do
      let (digits, rest) ← scanDigits atEnd rest
      return (decimalValue digits, rest)
  | rest => .ok (0, rest)

/-- Reads the digits behind a point, if there is one. -/
def scanFraction (atEnd : JsonDefect) (text : Text) : Except JsonDefect (Text × Text) :=
  match text with
  | '.' :: rest => scanDigits atEnd rest
  | rest => .ok ([], rest)

/-- Reads a number without its sign. No further digit follows a leading zero. -/
def scanNumber (atEnd : JsonDefect) (text : Text) : Except JsonDefect (NumberParts × Text) := do
  let (whole, rest) ← scanDigits atEnd text
  if whole.head? = some '0' ∧ 1 < whole.length then .error .malformed
  let (fraction, rest) ← scanFraction atEnd rest
  let (exponent, rest) ← scanExponent atEnd rest
  return ({ whole, fraction, exponent }, rest)

/-! ## Values of any kind -/

mutual

/-- Passes over a value. -/
def skipValueIn : (fuel : Nat) → Text → Except JsonDefect Text
  | 0, _ => .error .endsEarly
  | fuel + 1, text =>
    match skipSpace text with
    | [] => .error .endsEarly
    | '"' :: rest => skipString rest
    | '[' :: rest =>
      match skipSpace rest with
      | ']' :: rest => .ok rest
      | rest => skipItemsIn fuel rest
    | '\x7b' :: rest =>
      match skipSpace rest with
      | '\x7d' :: rest => .ok rest
      | rest => skipMembersIn fuel rest
    | 'n' :: rest => skipWord "ull".toList rest
    | 't' :: rest => skipWord "rue".toList rest
    | 'f' :: rest => skipWord "alse".toList rest
    | '-' :: rest => do return (← scanNumber .malformed rest).2
    | c :: rest =>
      if c.isDigit then do return (← scanNumber .malformed (c :: rest)).2
      else .error .malformed

/-- Passes over the items of an array and its closing bracket. -/
def skipItemsIn : (fuel : Nat) → Text → Except JsonDefect Text
  | 0, _ => .error .endsEarly
  | fuel + 1, text => do
    let rest ← skipValueIn fuel text
    match skipSpace rest with
    | [] => .error .endsEarly
    | ',' :: rest => skipItemsIn fuel rest
    | ']' :: rest => .ok rest
    | _ => .error .malformed

/-- Passes over the members of an object and its closing brace. -/
def skipMembersIn : (fuel : Nat) → Text → Except JsonDefect Text
  | 0, _ => .error .endsEarly
  | fuel + 1, text =>
    match skipSpace text with
    | [] => .error .endsEarly
    | '"' :: rest => do
      let rest ← skipString rest
      match skipSpace rest with
      | [] => .error .endsEarly
      | ':' :: rest =>
        let rest ← skipValueIn fuel rest
        match skipSpace rest with
        | [] => .error .endsEarly
        | ',' :: rest => skipMembersIn fuel rest
        | '\x7d' :: rest => .ok rest
        | _ => .error .malformed
      | _ => .error .malformed
    | _ => .error .malformed

end

/-- Passes over a value. Each character of the text leads to two calls at most. -/
def skipValue (text : Text) : Except JsonDefect Text :=
  skipValueIn (2 * text.length + 2) text

/-- What is reported when some result of scanning is of the wrong kind. -/
def unexpected {α : Type} : Except JsonDefect α → JsonDefect
  | .ok _ => .unexpectedData
  | .error defect => defect

/-- What is reported of a value of the wrong kind. A word, a number or a string is read first, and
a number may not lie beyond the range of double precision. -/
def mismatch (text : Text) : JsonDefect :=
  match text with
  | [] => .endsEarly
  | 'n' :: rest => unexpected (skipWord "ull".toList rest)
  | 't' :: rest => unexpected (skipWord "rue".toList rest)
  | 'f' :: rest => unexpected (skipWord "alse".toList rest)
  | '"' :: rest => unexpected (scanString rest)
  | '[' :: _ | '\x7b' :: _ => .unexpectedData
  | c :: rest =>
    if c = '-' ∨ c.isDigit then
      match scanNumber .endsEarly (if c = '-' then rest else c :: rest) with
      | .ok (parts, _) => if parts.isHuge then .malformed else .unexpectedData
      | .error defect => defect
    else .malformed

end HookGraft.Json

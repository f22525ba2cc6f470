import HookGraft.Hexadecimal

/-!
# JSON values

The JSON texts that are written: without any space, or with one member a line.

## Main definitions

* `JsonValue`: the values that are written
* `JsonValue.quote`: the form of a text between quotation marks
* `JsonValue.compact`: the form without any space
* `JsonValue.pretty`: the form with one member a line
-/

namespace HookGraft

/-- A JSON value. The members of an object keep their order. -/
inductive JsonValue where
  | bool (b : Bool)
  | number (n : Nat)
  | string (text : Text)
  | array (items : List JsonValue)
  | object (members : List (String × JsonValue))

namespace JsonValue

/-- The form of a character between quotation marks. Quotation marks, backslashes and control
characters of the lower block are escaped, by a letter where there is one. -/
def quoteChar (c : Char) : Text :=
  match c with
  | '"' => ['\\', '"']
  | '\\' => ['\\', '\\']
  | '\x08' => ['\\', 'b']
  | '\x0c' => ['\\', 'f']
  | '\n' => ['\\', 'n']
  | '\r' => ['\\', 'r']
  | '\t' => ['\\', 't']
  | c =>
    if c.toNat < 32 then ['\\', 'u', '0', '0', hexOf (c.toNat / 16), hexOf (c.toNat % 16)]
    else [c]

/-- The form of a text, with the quotation marks. -/
def quote (text : Text) : Text := '"' :: (text.flatMap quoteChar ++ ['"'])

/-- The form of a boolean value. -/
def ofBool (b : Bool) : Text := if b then "true".toList else "false".toList

mutual

/-- The form without any space. -/
def compact : JsonValue → Text
  | bool b => ofBool b
  | number n => Nat.toDigits 10 n
  | string text => quote text
  | array items => '[' :: (compactItems items ++ [']'])
  | object members => '\x7b' :: (compactMembers members ++ ['\x7d'])

/-- The items of an array, without any space. -/
def compactItems : List JsonValue → Text
  | [] => []
  | [item] => item.compact
  | item :: rest => item.compact ++ ',' :: compactItems rest

/-- The members of an object, without any space. -/
def compactMembers : List (String × JsonValue) → Text
  | [] => []
  | [(key, value)] => quote key.toList ++ ':' :: value.compact
  | (key, value) :: rest =>
    quote key.toList ++ ':' :: value.compact ++ ',' :: compactMembers rest

end

/-- A new line with so many steps of indentation. -/
def newLine (depth : Nat) : Text := '\n' :: List.replicate (2 * depth) ' '

mutual

/-- The form with one member a line, within so many steps of indentation. -/
def prettyAt (depth : Nat) : JsonValue → Text
  | bool b => ofBool b
  | number n => Nat.toDigits 10 n
  | string text => quote text
  | array [] => ['[', ']']
  | array (item :: rest) =>
    '[' :: (prettyItems (depth + 1) (item :: rest) ++ newLine depth ++ [']'])
  | object [] => ['\x7b', '\x7d']
  | object (member :: rest) =>
    '\x7b' :: (prettyMembers (depth + 1) (member :: rest) ++ newLine depth ++ ['\x7d'])

/-- The items of an array, one a line. -/
def prettyItems (depth : Nat) : List JsonValue → Text
  | [] => []
  | [item] => newLine depth ++ item.prettyAt depth
  | item :: rest => newLine depth ++ item.prettyAt depth ++ ',' :: prettyItems depth rest

/-- The members of an object, one a line. -/
def prettyMembers (depth : Nat) : List (String × JsonValue) → Text
  | [] => []
  | [(key, value)] =>
    newLine depth ++ quote key.toList ++ ':' :: ' ' :: value.prettyAt depth
  | (key, value) :: rest =>
    newLine depth ++ quote key.toList ++ ':' :: ' ' :: value.prettyAt depth
      ++ ',' :: prettyMembers depth rest

end

/-- The form with one member a line. -/
def pretty (v : JsonValue) : Text := v.prettyAt 0

end JsonValue

end HookGraft

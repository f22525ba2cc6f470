import HookGraft.Json.Scanner
import HookGraft.Json.Value
import HookGraft.Settings.Basic

/-!
# Settings as JSON

Settings are written as an object with all members. They are read from an object, in which any
member may be absent and unknown members are passed over, or from an array of the first few values
in order.

## Main definitions

* `SettingsField`: the members
* `Settings.toJson`: the object that settings are written as
* `Settings.read`: the settings that a JSON text holds
* `Settings.ofJson`: the same, if nothing is wrong with them
-/

namespace HookGraft

/-- The members of settings. -/
inductive SettingsField where
  | hookRoot
  | anchorKey
  | updateCapabilities
  | selectionCapabilities
  | colourInputId
  | declareNamespace
  deriving DecidableEq

namespace SettingsField

/-- All members, in the order in which they are written. -/
def all : List SettingsField :=
  [hookRoot, anchorKey, updateCapabilities, selectionCapabilities, colourInputId,
   declareNamespace]

/-- The key of a member. -/
def key : SettingsField → String
  | hookRoot => "namespace"
  | anchorKey => "anchor_key"
  | updateCapabilities => "update_capabilities"
  | selectionCapabilities => "selection_capabilities"
  | colourInputId => "colour_input_id"
  | declareNamespace => "declare_namespace"

/-- The member with a key. -/
def ofKey? (key : String) : Option SettingsField :=
  all.find? fun field => field.key == key

end SettingsField

namespace Settings

open Json

/-! ## Writing -/

/-- The value of a member. -/
def fieldJson (s : Settings) : SettingsField → JsonValue
  | .hookRoot => .string s.hookRoot.toList
  | .anchorKey => .string s.anchorKey.toList
  | .updateCapabilities => .array (s.updateCapabilities.map fun name => .string name.toList)
  | .selectionCapabilities =>
    .array (s.selectionCapabilities.map fun name => .string name.toList)
  | .colourInputId => .string s.colourInputId.toList
  | .declareNamespace => .bool s.declareNamespace

/-- The object that settings are written as. -/
def toJson (s : Settings) : JsonValue :=
  .object (SettingsField.all.map fun field => (field.key, s.fieldJson field))

/-! ## Reading -/

/-- Reads a string. -/
def readString (text : Text) : Except JsonDefect (String × Text) :=
  match skipSpace text with
  | '"' :: rest => do
    let (value, rest) ← scanString rest
    return (String.ofList value, rest)
  | text => .error (mismatch text)

/-- Reads a boolean value. -/
def readBool (text : Text) : Except JsonDefect (Bool × Text) :=
  match skipSpace text with
  | 't' :: rest => do return (true, ← skipWord "rue".toList rest)
  | 'f' :: rest => do return (false, ← skipWord "alse".toList rest)
  | text => .error (mismatch text)

/-- What follows an item of an array: nothing behind a closing bracket, or another item behind a
comma. -/
def nextItem (text : Text) : Except JsonDefect (Option Text × Text) :=
  match skipSpace text with
  | [] => .error .endsEarly
  | ']' :: rest => .ok (none, rest)
  | ',' :: rest =>
    match skipSpace rest with
    | [] => .error .endsEarly
    | ']' :: _ => .error .malformed
    | rest => .ok (some rest, rest)
  | _ => .error .malformed

/-- Reads the strings of an array, of which one at least is left, and the closing bracket. -/
def readItems : (fuel : Nat) → Text → Except JsonDefect (List String × Text)
  | 0, _ => .error .endsEarly
  | fuel + 1, text => do
    let (item, rest) ← readString text
    match ← nextItem rest with
    | (none, rest) => return ([item], rest)
    | (some rest, _) =>
      let (items, rest) ← readItems fuel rest
      return (item :: items, rest)

/-- Reads an array of strings. -/
def readStrings (text : Text) : Except JsonDefect (List String × Text) :=
  match skipSpace text with
  | '[' :: rest =>
    match skipSpace rest with
    | [] => .error .endsEarly
    | ']' :: rest => .ok ([], rest)
    | rest => readItems (rest.length + 1) rest
  | text => .error (mismatch text)

/-- Reads the value of a member into settings. -/
def readField (s : Settings) (text : Text) :
    SettingsField → Except JsonDefect (Settings × Text)
  | .hookRoot => do
    let (value, rest) ← readString text
    return ({ s with hookRoot := value }, rest)
  | .anchorKey => do
    let (value, rest) ← readString text
    return ({ s with anchorKey := value }, rest)
  | .updateCapabilities => do
    let (value, rest) ← readStrings text
    return ({ s with updateCapabilities := value }, rest)
  | .selectionCapabilities => do
    let (value, rest) ← readStrings text
    return ({ s with selectionCapabilities := value }, rest)
  | .colourInputId => do
    let (value, rest) ← readString text
    return ({ s with colourInputId := value }, rest)
  | .declareNamespace => do
    let (value, rest) ← readBool text
    return ({ s with declareNamespace := value }, rest)

/-- Passes over the colon behind a key. -/
def skipColon (text : Text) : Except JsonDefect Text :=
  match skipSpace text with
  | [] => .error .endsEarly
  | ':' :: rest => .ok rest
  | _ => .error .malformed

/-- Reads the value behind a key. No member of the settings may come twice; other members are passed
over. -/
def readMember (seen : List SettingsField) (s : Settings) (key : Text) (text : Text) :
    Except JsonDefect (List SettingsField × Settings × Text) :=
  match SettingsField.ofKey? (String.ofList key) with
  | none => do return (seen, s, ← skipValue (← skipColon text))
  | some field =>
    -- a repeated key is refused before its value is looked at
    if seen.contains field then .error .unexpectedData
    else do
      let (s, rest) ← s.readField (← skipColon text) field
      return (field :: seen, s, rest)

/-- Reads the members of an object, of which one at least is left, and the closing brace. -/
def readMembers : (fuel : Nat) → List SettingsField → Settings → Text →
    Except JsonDefect (Settings × Text)
  | 0, _, _, _ => .error .endsEarly
  | fuel + 1, seen, s, text =>
    match skipSpace text with
    | [] => .error .endsEarly
    | '"' :: rest => do
      let (key, rest) ← scanString rest
      let (seen, s, rest) ← readMember seen s key rest
      match skipSpace rest with
      | [] => .error .endsEarly
      | ',' :: rest => readMembers fuel seen s rest
      | '\x7d' :: rest => return (s, rest)
      | _ => .error .malformed
    | _ => .error .malformed

/-- Reads an object behind its opening brace. -/
def readObject (text : Text) : Except JsonDefect (Settings × Text) :=
  match skipSpace text with
  | '\x7d' :: rest => .ok ({}, rest)
  | rest => readMembers (rest.length + 1) [] {} rest

/-- Reads the values of an array behind its first value, and the closing bracket. -/
def readValues (s : Settings) (text : Text) :
    List SettingsField → Except JsonDefect (Settings × Text)
  | [] =>
    match skipSpace text with
    | [] => .error .endsEarly
    | ']' :: rest => .ok (s, rest)
    | _ => .error .malformed
  | field :: fields => do
    match ← nextItem text with
    | (none, rest) => return (s, rest)
    | (some rest, _) =>
      let (s, rest) ← s.readField rest field
      readValues s rest fields

/-- Reads an array behind its opening bracket. -/
def readArray (text : Text) : Except JsonDefect (Settings × Text) :=
  match skipSpace text with
  | [] => .error .endsEarly
  | ']' :: rest => .ok ({}, rest)
  | rest => do
    let (s, rest) ← Settings.readField {} rest .hookRoot
    s.readValues rest SettingsField.all.tail

/-- Reads settings at the beginning of a text. -/
def readValue (text : Text) : Except JsonDefect (Settings × Text) :=
  match skipSpace text with
  | '\x7b' :: rest => readObject rest
  | '[' :: rest => readArray rest
  | text => .error (mismatch text)

/-- The settings that a JSON text holds, whether or not something is wrong with them. -/
def read (text : Text) : Except JsonDefect Settings := do
  let (s, rest) ← readValue text
  if (skipSpace rest).isEmpty then return s else .error .malformed

/-- The settings that a JSON text holds. -/
def ofJson (text : Text) : Except PatchError Settings :=
  match read text with
  | .error defect => .error (.json defect)
  | .ok s =>
    match s.validate with
    | .ok () => .ok s
    | .error e => .error e

end Settings

end HookGraft

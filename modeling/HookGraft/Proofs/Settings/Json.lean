import HookGraft.Proofs.Json.Scanning
import HookGraft.Settings.Json

/-!
# Settings in JSON texts

An object gives settings some of their members, in any order, with white space anywhere and other
members in between. The settings that are read from it are the defaults with just these members
replaced. What is written is such an object with all members, so settings survive being written and
read.

## Main definitions

* `Settings.IsFieldText`: the texts for the value of a member
* `Settings.IsObject`: the objects that give some members the values that they have in settings
* `Settings.override`: settings with some members taken from others

## Main results

* `Settings.readField_of_text`: the value of a member is read
* `Settings.readMember_of_member`: a member is read, or passed over if it is unknown
* `Settings.readMembers_of_members`: members are read into settings
* `Settings.read_of_object`: an object is read as the defaults with its members replaced
* `Settings.isObject_toJson`: settings are written as an object with all members
* `Settings.survives_json`: settings survive being written and read
-/

namespace HookGraft.Settings

open Json

/-! ## Values -/

/-- A string, with white space around it. -/
inductive IsStringText (value : String) : Text → Prop where
  | quoted {before spelled after : Text} :
      IsSpace before → Spells spelled value.toList → IsSpace after →
      IsStringText value (before ++ '"' :: (spelled ++ '"' :: after))

/-- The items of an array of strings, of which there is one at least. -/
inductive AreStringTexts : List String → Text → Prop where
  | last {value : String} {text : Text} : IsStringText value text → AreStringTexts [value] text
  | next {value : String} {values : List String} {text rest : Text} :
      IsStringText value text → AreStringTexts values rest →
      AreStringTexts (value :: values) (text ++ ',' :: rest)

/-- An array of strings, with white space around it. -/
inductive IsStringsText : List String → Text → Prop where
  | empty {before gap after : Text} : IsSpace before → IsSpace gap → IsSpace after →
      IsStringsText [] (before ++ '[' :: (gap ++ ']' :: after))
  | items {values : List String} {before text after : Text} :
      IsSpace before → AreStringTexts values text → IsSpace after →
      IsStringsText values (before ++ '[' :: (text ++ ']' :: after))

/-- A boolean value, with white space around it. -/
inductive IsBoolText : Bool → Text → Prop where
  | yes {before after : Text} : IsSpace before → IsSpace after →
      IsBoolText true (before ++ ("true".toList ++ after))
  | no {before after : Text} : IsSpace before → IsSpace after →
      IsBoolText false (before ++ ("false".toList ++ after))

/-- The texts for the value of a member. -/
def IsFieldText (s : Settings) : SettingsField → Text → Prop
  | .hookRoot => IsStringText s.hookRoot
  | .anchorKey => IsStringText s.anchorKey
  | .updateCapabilities => IsStringsText s.updateCapabilities
  | .selectionCapabilities => IsStringsText s.selectionCapabilities
  | .colourInputId => IsStringText s.colourInputId
  | .declareNamespace => IsBoolText s.declareNamespace

/-! ## Objects -/

/-- A member of an object. It gives one member the value that it has in settings, or its key spells
some other name, and it gives nothing. -/
inductive IsMember (s : Settings) : List SettingsField → Text → Prop where
  | known {field : SettingsField} {before key gap text : Text} :
      IsSpace before → Spells key field.key.toList → IsSpace gap → s.IsFieldText field text →
      IsMember s [field] (before ++ '"' :: (key ++ '"' :: (gap ++ ':' :: text)))
  | unknown {name before key gap text : Text} :
      IsSpace before → Spells key name → (∀ field : SettingsField, field.key.toList ≠ name) →
      IsSpace gap → IsJson .value text →
      IsMember s [] (before ++ '"' :: (key ++ '"' :: (gap ++ ':' :: text)))

/-- The members of an object, of which there is one at least, and what they give. -/
inductive AreMembers (s : Settings) : List SettingsField → Text → Prop where
  | last {fields : List SettingsField} {text : Text} : IsMember s fields text →
      AreMembers s fields text
  | next {fields others : List SettingsField} {text rest : Text} :
      IsMember s fields text → AreMembers s others rest →
      AreMembers s (fields ++ others) (text ++ ',' :: rest)

/-- The objects that give some members the values that they have in settings. -/
inductive IsObject (s : Settings) : List SettingsField → Text → Prop where
  | empty {before gap after : Text} : IsSpace before → IsSpace gap → IsSpace after →
      IsObject s [] (before ++ '\x7b' :: (gap ++ '\x7d' :: after))
  | members {fields : List SettingsField} {before text after : Text} :
      IsSpace before → AreMembers s fields text → IsSpace after →
      IsObject s fields (before ++ '\x7b' :: (text ++ '\x7d' :: after))

/-- Settings with some members taken from others. -/
def override (base s : Settings) (fields : List SettingsField) : Settings where
  hookRoot := if .hookRoot ∈ fields then s.hookRoot else base.hookRoot
  anchorKey := if .anchorKey ∈ fields then s.anchorKey else base.anchorKey
  updateCapabilities :=
    if .updateCapabilities ∈ fields then s.updateCapabilities else base.updateCapabilities
  selectionCapabilities :=
    if .selectionCapabilities ∈ fields then s.selectionCapabilities else base.selectionCapabilities
  colourInputId := if .colourInputId ∈ fields then s.colourInputId else base.colourInputId
  declareNamespace :=
    if .declareNamespace ∈ fields then s.declareNamespace else base.declareNamespace

variable {s base : Settings} {fields others : List SettingsField} {field : SettingsField}
  {text rest : Text} {value : String} {values : List String} {fuel : Nat}

@[simp] theorem override_nil : base.override s [] = base := by simp [override]

/-- The members may be taken one after the other. -/
theorem override_append :
    (base.override s fields).override s others = base.override s (fields ++ others) := by
  have step {α : Type} (p q : Prop) [Decidable p] [Decidable q] (x y : α) :
      (if q then x else if p then x else y) = if p ∨ q then x else y := by
    by_cases p <;> by_cases q <;> simp [*]
  simp only [override, step, List.mem_append]

/-- Only which members are taken matters. -/
theorem override_congr (same : ∀ field, field ∈ fields ↔ field ∈ others) :
    base.override s fields = base.override s others := by
  simp only [override, same]

theorem override_all : base.override s SettingsField.all = s := by
  simp [override, SettingsField.all]

/-! ## Reading values -/

theorem readString_of_text (written : IsStringText value text) (rest : Text) :
    ∃ gap, IsSpace gap ∧ readString (text ++ rest) = .ok (value, gap ++ rest) := by
  cases written with
  | @quoted before spelled after space spells space' =>
    refine ⟨after, space', ?_⟩
    simp only [List.append_assoc, List.cons_append]
    simp only [readString, skipSpace_append_cons space (c := '"') (by decide),
      scanString_of_spells spells, Except.ok_bind, String.ofList_toList]
    rfl

theorem readBool_of_text {b : Bool} (written : IsBoolText b text) (rest : Text) :
    ∃ gap, IsSpace gap ∧ readBool (text ++ rest) = .ok (b, gap ++ rest) := by
  cases written with
  | @yes before after space space' =>
    refine ⟨after, space', ?_⟩
    rw [List.append_assoc, readBool, skipSpace_append space]
    rfl
  | @no before after space space' =>
    refine ⟨after, space', ?_⟩
    rw [List.append_assoc, readBool, skipSpace_append space]
    rfl

/-- White space before the items may be left out. -/
theorem AreStringTexts.strip (written : AreStringTexts values text) :
    ∃ before more, IsSpace before ∧ text = before ++ '"' :: more ∧
      AreStringTexts values ('"' :: more) := by
  cases written with
  | last item =>
    obtain ⟨space, spells, space'⟩ := item
    exact ⟨_, _, space, rfl, .last (.quoted .nil spells space')⟩
  | next item others =>
    obtain ⟨space, spells, space'⟩ := item
    refine ⟨_, _, space, List.append_assoc .., ?_⟩
    exact .next (.quoted .nil spells space') others

section NextItem

variable {gap before : Text} (space : IsSpace gap)
include space

theorem nextItem_closing : nextItem (gap ++ ']' :: rest) = .ok (none, rest) := by
  rw [nextItem, skipSpace_append_cons space (by decide)]
  rfl

theorem nextItem_comma (space' : IsSpace before) :
    nextItem (gap ++ ',' :: (before ++ '"' :: rest)) = .ok (some ('"' :: rest), '"' :: rest) := by
  simp only [nextItem, skipSpace_append_cons space (c := ',') (by decide),
    skipSpace_append_cons space' (c := '"') (by decide)]
  rfl

end NextItem

theorem readItems_skipSpace : readItems fuel (skipSpace text) = readItems fuel text := by
  cases fuel with
  | zero => rfl
  | succ fuel => simp only [readItems, readString, skipSpace_skipSpace]

theorem readItems_of_texts (written : AreStringTexts values text) (enough : text.length < fuel)
    (rest : Text) : readItems fuel (text ++ ']' :: rest) = .ok (values, rest) := by
  induction written generalizing fuel with
  | last item =>
    obtain ⟨fuel, rfl⟩ : ∃ less, fuel = less + 1 := ⟨fuel - 1, by omega⟩
    obtain ⟨gap, space, read⟩ := readString_of_text item (']' :: rest)
    simp only [readItems, read, Except.ok_bind, nextItem_closing space]
    rfl
  | @next value values text others item more ih =>
    obtain ⟨fuel, rfl⟩ : ∃ less, fuel = less + 1 := ⟨fuel - 1, by omega⟩
    simp only [List.length_append, List.length_cons] at enough
    have tail := ih (show others.length < fuel by omega)
    obtain ⟨before, quoted, space', rfl, -⟩ := more.strip
    obtain ⟨gap, space, read⟩ :=
      readString_of_text item (',' :: (before ++ '"' :: (quoted ++ ']' :: rest)))
    simp only [List.append_assoc, List.cons_append] at tail ⊢
    rw [← readItems_skipSpace, skipSpace_append_cons space' (by decide)] at tail
    simp only [readItems, read, Except.ok_bind, nextItem_comma space space', tail]
    rfl

theorem readStrings_of_text (written : IsStringsText values text) (rest : Text) :
    ∃ gap, IsSpace gap ∧ readStrings (text ++ rest) = .ok (values, gap ++ rest) := by
  cases written with
  | @empty before gap after space space' space'' =>
    refine ⟨after, space'', ?_⟩
    simp only [List.append_assoc, List.cons_append]
    simp only [readStrings, skipSpace_append_cons space (c := '[') (by decide),
      skipSpace_append_cons space' (c := ']') (by decide)]
  | @items _ before text after space items space' =>
    refine ⟨after, space', ?_⟩
    obtain ⟨gap, more, space'', rfl, stripped⟩ := items.strip
    have enough : ('"' :: more).length < ('"' :: (more ++ ']' :: (after ++ rest))).length + 1 := by
      simp only [List.length_cons, List.length_append]
      omega
    have read := readItems_of_texts stripped enough (after ++ rest)
    simp only [List.append_assoc, List.cons_append]
    simp only [readStrings, skipSpace_append_cons space (c := '[') (by decide),
      skipSpace_append_cons space'' (c := '"') (by decide)]
    exact read

/-- The value of a member is read. -/
theorem readField_of_text (base : Settings) (written : s.IsFieldText field text) (rest : Text) :
    ∃ gap, IsSpace gap ∧
      base.readField (text ++ rest) field = .ok (base.override s [field], gap ++ rest) := by
  cases field with
  | hookRoot | anchorKey | colourInputId =>
    obtain ⟨gap, space, read⟩ := readString_of_text written rest
    refine ⟨gap, space, ?_⟩
    rw [readField, read]
    simp [override]
  | updateCapabilities | selectionCapabilities =>
    obtain ⟨gap, space, read⟩ := readStrings_of_text written rest
    refine ⟨gap, space, ?_⟩
    rw [readField, read]
    simp [override]
  | declareNamespace =>
    obtain ⟨gap, space, read⟩ := readBool_of_text written rest
    refine ⟨gap, space, ?_⟩
    rw [readField, read]
    simp [override]

/-! ## Reading objects -/

theorem ofKey?_key (field : SettingsField) : SettingsField.ofKey? field.key = some field := by
  cases field <;> rfl

theorem ofKey?_of_unknown {name : Text}
    (unknown : ∀ field : SettingsField, field.key.toList ≠ name) :
    SettingsField.ofKey? (String.ofList name) = none := by
  rw [SettingsField.ofKey?, List.find?_eq_none]
  intro field _ same
  exact unknown field (by rw [eq_of_beq same, String.toList_ofList])

theorem skipColon_append {gap : Text} (space : IsSpace gap) :
    skipColon (gap ++ ':' :: rest) = .ok rest := by
  rw [skipColon, skipSpace_append_cons space (by decide)]
  rfl

variable {seen : List SettingsField}

/-- A member is read, unless it has been read before, and an unknown one is passed over. -/
theorem readMember_of_member (base : Settings) (member : IsMember s fields text)
    (fresh : ∀ field ∈ fields, field ∉ seen) (ends : EndsNumber rest) :
    ∃ quoted key behind gap, skipSpace (text ++ rest) = '"' :: quoted ∧
      scanString quoted = .ok (key, behind) ∧ IsSpace gap ∧
      readMember seen base key behind =
        .ok (fields ++ seen, base.override s fields, gap ++ rest) := by
  cases member with
  | @known field before key gap text space spells space' written =>
    obtain ⟨gap', space'', read⟩ := readField_of_text base written rest
    have new : ¬ seen.contains field = true := by
      simpa using fresh field List.mem_cons_self
    simp only [List.append_assoc, List.cons_append]
    refine ⟨_, _, _, gap', skipSpace_append_cons space (by decide), scanString_of_spells spells,
      space'', ?_⟩
    simp only [readMember, String.ofList_toList, ofKey?_key, if_neg new, skipColon_append space',
      read, Except.ok_bind, List.nil_append]
    rfl
  | @unknown name before key gap text space spells other space' json =>
    obtain ⟨gap', space'', passed⟩ := skipValue_of_isJson json ends
    simp only [List.append_assoc, List.cons_append]
    refine ⟨_, _, _, gap', skipSpace_append_cons space (by decide), scanString_of_spells spells,
      space'', ?_⟩
    simp only [readMember, ofKey?_of_unknown other, skipColon_append space', passed,
      Except.ok_bind, override_nil]
    rfl

/-- White space before the members may be left out. -/
theorem AreMembers.strip (members : AreMembers s fields text) :
    ∃ before more, IsSpace before ∧ text = before ++ '"' :: more ∧
      AreMembers s fields ('"' :: more) := by
  have single {fields : List SettingsField} {text : Text} (member : IsMember s fields text) :
      ∃ before more, IsSpace before ∧ text = before ++ '"' :: more ∧
        IsMember s fields ('"' :: more) := by
    cases member with
    | known space spells space' written =>
      exact ⟨_, _, space, rfl, .known .nil spells space' written⟩
    | unknown space spells other space' json =>
      exact ⟨_, _, space, rfl, .unknown .nil spells other space' json⟩
  cases members with
  | last member =>
    obtain ⟨before, more, space, rfl, stripped⟩ := single member
    exact ⟨before, more, space, rfl, .last stripped⟩
  | next member others =>
    obtain ⟨before, more, space, rfl, stripped⟩ := single member
    exact ⟨before, _, space, List.append_assoc .., .next stripped others⟩

/-- Members are read into settings. -/
theorem readMembers_of_members (base : Settings) (members : AreMembers s fields text)
    (enough : text.length < fuel) (once : (fields ++ seen).Nodup) (rest : Text) :
    readMembers fuel seen base (text ++ '\x7d' :: rest) = .ok (base.override s fields, rest) := by
  induction members generalizing fuel seen base with
  | last member =>
    obtain ⟨fuel, rfl⟩ : ∃ less, fuel = less + 1 := ⟨fuel - 1, by omega⟩
    obtain ⟨-, -, apart⟩ := List.nodup_append.1 once
    have ends : EndsNumber ('\x7d' :: rest) := .cons rfl (by decide)
    obtain ⟨quoted, key, behind, gap, opened, scanned, space, read⟩ :=
      readMember_of_member base member (fun field new old => apart field new field old rfl) ends
    simp only [readMembers, opened, scanned, read, Except.ok_bind,
      skipSpace_append_cons space (c := '\x7d') (by decide)]
    rfl
  | @next fields others text more member _ ih =>
    obtain ⟨fuel, rfl⟩ : ∃ less, fuel = less + 1 := ⟨fuel - 1, by omega⟩
    simp only [List.length_append, List.length_cons] at enough
    rw [List.append_assoc] at once
    have once' : (others ++ (fields ++ seen)).Nodup :=
      (List.perm_append_comm_assoc fields others seen).nodup_iff.1 once
    obtain ⟨-, -, apart⟩ := List.nodup_append.1 once
    have fresh : ∀ field ∈ fields, field ∉ seen := fun field new old =>
      apart field new field (List.mem_append_right others old) rfl
    have ends : EndsNumber (',' :: (more ++ '\x7d' :: rest)) := .cons rfl (by decide)
    obtain ⟨quoted, key, behind, gap, opened, scanned, space, read⟩ :=
      readMember_of_member base member fresh ends
    simp only [List.append_assoc, List.cons_append, readMembers, opened, scanned, read,
      Except.ok_bind, skipSpace_append_cons space (c := ',') (by decide)]
    rw [ih _ (by omega) once', override_append]

theorem read_of_readValue {after : Text} (value : readValue text = .ok (s, after))
    (space : IsSpace after) : read text = .ok s := by
  have done : skipSpace after = [] := by
    rw [← List.append_nil after, skipSpace_append space]
    rfl
  simp only [read, value, Except.ok_bind, done]
  rfl

/-- An object is read as the defaults with its members replaced. -/
theorem read_of_object (object : IsObject s fields text) (once : fields.Nodup) :
    read text = .ok (override {} s fields) := by
  cases object with
  | @empty before gap after space space' space'' =>
    refine read_of_readValue ?_ space''
    simp only [readValue, skipSpace_append_cons space (c := '\x7b') (by decide), readObject,
      skipSpace_append_cons space' (c := '\x7d') (by decide), override_nil]
  | @members _ before text after space members space' =>
    refine read_of_readValue ?_ space'
    obtain ⟨gap, more, space'', rfl, stripped⟩ := members.strip
    have enough : ('"' :: more).length < ('"' :: (more ++ '\x7d' :: after)).length + 1 := by
      simp only [List.length_cons, List.length_append]
      omega
    have once' : (fields ++ []).Nodup := by rwa [List.append_nil]
    have read := readMembers_of_members {} stripped enough once' after
    simp only [List.append_assoc, List.cons_append]
    simp only [readValue, skipSpace_append_cons space (c := '\x7b') (by decide), readObject,
      skipSpace_append_cons space'' (c := '"') (by decide)]
    exact read

/-- What is read counts just if nothing is wrong with it. -/
theorem ofJson_of_read (held : read text = .ok s) : ofJson text = s.validate.map fun _ => s := by
  simp only [ofJson, held]
  cases s.validate <;> rfl

/-! ## Writing -/

theorem isStringText_quote (value : String) : IsStringText value (JsonValue.quote value.toList) :=
  .quoted .nil (spells_quoteChar value.toList) .nil

theorem areStringTexts_compact (first : String) (values : List String) :
    AreStringTexts (first :: values)
      (JsonValue.compactItems ((first :: values).map fun name => .string name.toList)) := by
  induction values generalizing first with
  | nil => exact .last (isStringText_quote first)
  | cons second values ih => exact .next (isStringText_quote first) (ih second)

theorem isStringsText_compact (values : List String) : IsStringsText values
    (JsonValue.array (values.map fun name => .string name.toList)).compact := by
  cases values with
  | nil => exact .empty .nil .nil .nil
  | cons first values => exact .items .nil (areStringTexts_compact first values) .nil

theorem isBoolText_compact (b : Bool) : IsBoolText b (JsonValue.bool b).compact := by
  cases b with
  | true => exact .yes .nil .nil
  | false => exact .no .nil .nil

/-- The value of a member is written as a text for it. -/
theorem isFieldText_compact (s : Settings) (field : SettingsField) :
    s.IsFieldText field (s.fieldJson field).compact := by
  cases field with
  | hookRoot | anchorKey | colourInputId => exact isStringText_quote _
  | updateCapabilities | selectionCapabilities => exact isStringsText_compact _
  | declareNamespace => exact isBoolText_compact _

theorem isMember_compact (s : Settings) (field : SettingsField) :
    IsMember s [field]
      (JsonValue.quote field.key.toList ++ ':' :: (s.fieldJson field).compact) := by
  rw [JsonValue.quote, List.cons_append, List.append_assoc]
  exact .known .nil (spells_quoteChar field.key.toList) .nil
    (isFieldText_compact s field)

theorem areMembers_compact (s : Settings) (first : SettingsField) (fields : List SettingsField) :
    AreMembers s (first :: fields)
      (JsonValue.compactMembers
        ((first :: fields).map fun field => (field.key, s.fieldJson field))) := by
  induction fields generalizing first with
  | nil => exact .last (isMember_compact s first)
  | cons second fields ih => exact .next (isMember_compact s first) (ih second)

/-- Settings are written as an object with all members. -/
theorem isObject_toJson (s : Settings) : IsObject s SettingsField.all s.toJson.compact :=
  .members .nil (areMembers_compact s .hookRoot _) .nil

/-! ## The round trip -/

/-- **Settings survive JSON.** What is written of settings is read back as the same settings, unless
something is wrong with them, which is then what is reported. And any object that gives some members,
each once, is read as the defaults with just these members replaced, under the same condition, with
white space anywhere and with unknown members, whose values may be of any kind. So neither the order
of the members nor the unknown ones matter. -/
theorem survives_json (s : Settings) :
    ofJson s.toJson.compact = (s.validate.map fun _ => s) ∧
    (∀ fields text, IsObject s fields text → fields.Nodup →
      ofJson text = (override {} s fields).validate.map fun _ => override {} s fields) ∧
    ∀ fields text fields' text', IsObject s fields text → IsObject s fields' text' →
      fields.Nodup → fields'.Nodup → (∀ field, field ∈ fields ↔ field ∈ fields') →
      ofJson text = ofJson text' := by
  have reads {fields : List SettingsField} {text : Text} (object : IsObject s fields text)
      (once : fields.Nodup) :
      ofJson text = (override {} s fields).validate.map fun _ => override {} s fields :=
    ofJson_of_read (read_of_object object once)
  refine ⟨?_, fun fields text => reads, ?_⟩
  · have whole := reads (isObject_toJson s) (by decide)
    rwa [override_all] at whole
  · intro fields text fields' text' object object' once once' same
    rw [reads object once, reads object' once', override_congr same]

/-- An unknown member, a member in escapes, and white space; the same members in the other order;
and settings with something wrong. -/
theorem survives_json_sample :
    let unknown := "\"x\\u00e9\": [-2.5e+3, \x7b\"\":\"\\ud800\"\x7d ] ".toList
    let declares := "\"declare_namespace\":true".toList
    let names := " \"\\u006eamespace\"\t:\"w\\ud83d\\ude00\"".toList
    let names' := "\"namespace\":\"w😀\"".toList
    let text := ' ' :: '\x7b' :: ((unknown ++ ',' :: (declares ++ ',' :: names)) ++ ['\x7d', '\n'])
    let text' := '\x7b' :: ((names' ++ ',' :: declares) ++ ['\x7d'])
    let s : Settings := { hookRoot := "w😀", declareNamespace := true }
    let blank : Settings := { hookRoot := "\t" }
    IsObject s [.declareNamespace, .hookRoot] text ∧
      IsObject s [.hookRoot, .declareNamespace] text' ∧
      ofJson text = .ok s ∧ ofJson text = ofJson text' ∧
      blank.toJson.compact.take 16 = "\x7b\"namespace\":\"\\t".toList ∧
      ofJson blank.toJson.compact = .error (.settings .blankNamespace) := by
  intro unknown declares names names' text text' s blank
  have number : IsNumber "-2.5e+3".toList :=
    @IsNumber.parts ['-'] ['2'] ['.', '5'] ['e', '+', '3'] (.inr rfl) (by decide) (by decide)
      (.inr ⟨['5'], by decide, rfl⟩)
      (.inr ⟨'e', ['+'], ['3'], .inl rfl, .inr (.inl rfl), by decide, rfl⟩)
  have lone : IsStringBody "\\ud800".toList :=
    @IsStringBody.unit "d800".toList [] 0xD800 (by decide) .nil
  have inner : IsJson .value "\x7b\"\":\"\\ud800\"\x7d".toList :=
    .object (@IsJson.lastMember [] [] [] _ .nil .nil .nil (.string lone))
  have array : IsJson .value "[-2.5e+3, \x7b\"\":\"\\ud800\"\x7d ]".toList :=
    .array (.item (.number number)
      (.lastItem (@IsJson.spaced [' '] _ [' '] (by decide) inner (by decide))))
  have accented : Spells "x\\u00e9".toList ['x', 'é'] :=
    .cons (.plain (by decide)) (@Spells.cons "\\u00e9".toList [] [] 'é'
      (@SpellsChar.unit "00e9".toList 'é' (by decide)) .nil)
  have first : IsMember s [] unknown :=
    @IsMember.unknown s ['x', 'é'] [] "x\\u00e9".toList [] _ .nil accented
      (fun field => by cases field <;> decide) .nil
      (@IsJson.spaced [' '] _ [' '] (by decide) array (by decide))
  have second : IsMember s [.declareNamespace] declares :=
    @IsMember.known s .declareNamespace [] "declare_namespace".toList [] _ .nil
      (spells_of_plain (by decide)) .nil (@IsBoolText.yes [] [] .nil .nil)
  have key : Spells "\\u006eamespace".toList "namespace".toList :=
    @Spells.cons "\\u006e".toList "amespace".toList "amespace".toList 'n'
      (@SpellsChar.unit "006e".toList 'n' (by decide)) (spells_of_plain (by decide))
  have pair : SpellsChar "\\ud83d\\ude00".toList '😀' :=
    @SpellsChar.pair "d83d".toList "de00".toList '😀' 0xF600 rfl (by decide) (by decide)
  have value : Spells "w\\ud83d\\ude00".toList "w😀".toList :=
    @Spells.cons ['w'] _ _ 'w' (.plain (by decide)) (@Spells.cons _ [] [] '😀' pair .nil)
  have third : IsMember s [.hookRoot] names :=
    @IsMember.known s .hookRoot [' '] "\\u006eamespace".toList ['\t'] _ (by decide) key (by decide)
      (@IsStringText.quoted _ [] "w\\ud83d\\ude00".toList [] .nil value .nil)
  have third' : IsMember s [.hookRoot] names' :=
    @IsMember.known s .hookRoot [] "namespace".toList [] _ .nil (spells_of_plain (by decide)) .nil
      (@IsStringText.quoted _ [] "w😀".toList [] .nil (spells_of_plain (by decide)) .nil)
  have object : IsObject s [.declareNamespace, .hookRoot] text :=
    @IsObject.members s _ [' '] _ ['\n'] (by decide) (.next first (.next second (.last third)))
      (by decide)
  have object' : IsObject s [.hookRoot, .declareNamespace] text' :=
    @IsObject.members s _ [] _ [] .nil (.next third' (.last second)) .nil
  obtain ⟨-, reads, same⟩ := survives_json s
  obtain ⟨wrong, -, -⟩ := survives_json blank
  refine ⟨object, object', ?_, same _ _ _ _ object object' (by decide) (by decide) ?_,
    by decide, ?_⟩
  · rw [reads _ _ object (by decide)]
    decide
  · simp [or_comm]
  · rw [wrong]
    decide

end HookGraft.Settings

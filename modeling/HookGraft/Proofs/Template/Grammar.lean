import HookGraft.Proofs.FirstEntry
import HookGraft.Proofs.Rendering
import HookGraft.Text.Lemmas

/-!
# The grammar of templates

A template is written as literal texts with placeholders between them. A literal text may hold
anything but the beginning of a placeholder, and so a text comes apart in one way only. What has no
such parts has a first place where a placeholder begins and does not go on as one.

## Main definitions

* `NamesParameter`: the texts that can name a parameter
* `Composition`: a text taken apart at its placeholders
* `Composition.IsProper`: the grammar of the parts
* `Composition.BreaksOff`: a text whose first broken placeholder stands behind some parts

## Main results

* `isParameterName_iff`: which names are accepted
* `Template.parse_of_proper`, `Template.parse_of_breaksOff`: what is read in the two cases
* `Composition.exists_proper_or_breaksOff`: there is no third case
* `Composition.IsProper.eq_of_text`: a text comes apart in one way only
* `Template.parses_grammar`: a text is read just if it is of the grammar, and nothing of it is lost
-/

namespace HookGraft

/-! ## Names and placeholders -/

/-- The characters a name begins with. -/
def IsNameStart (c : Char) : Prop := 'A' ≤ c ∧ c ≤ 'Z' ∨ 'a' ≤ c ∧ c ≤ 'z' ∨ c = '_'

/-- The characters a name goes on with. -/
def IsNamePart (c : Char) : Prop := IsNameStart c ∨ '0' ≤ c ∧ c ≤ '9' ∨ c = '.'

/-- The texts that can name a parameter. -/
def NamesParameter (name : Text) : Prop :=
  ∃ c rest, name = c :: rest ∧ IsNameStart c ∧ ∀ d ∈ rest, IsNamePart d

theorem isNameStart_iff {c : Char} : (c.isAlpha || c == '_') = true ↔ IsNameStart c := by
  have alpha : c.isAlpha = (decide ('A' ≤ c ∧ c ≤ 'Z') || decide ('a' ≤ c) && decide (c ≤ 'z')) := rfl
  simp only [alpha, Bool.or_eq_true, Bool.and_eq_true, decide_eq_true_eq, beq_iff_eq, or_assoc]
  rfl

theorem isNamePart_iff {c : Char} :
    (c.isAlphanum || c == '_' || c == '.') = true ↔ IsNamePart c := by
  have digit : c.isDigit = (decide ('0' ≤ c) && decide (c ≤ '9')) := rfl
  have alphanum : c.isAlphanum = (c.isAlpha || c.isDigit) := rfl
  rw [IsNamePart, ← isNameStart_iff]
  simp only [alphanum, digit, Bool.or_eq_true, Bool.and_eq_true, decide_eq_true_eq, beq_iff_eq]
  tauto

instance : DecidablePred IsNameStart := fun _ => decidable_of_iff _ isNameStart_iff

instance : DecidablePred IsNamePart := fun _ => decidable_of_iff _ isNamePart_iff

/-- Which names are accepted. -/
theorem isParameterName_iff {name : Text} : isParameterName name = true ↔ NamesParameter name := by
  cases name with
  | nil => simp [isParameterName, NamesParameter]
  | cons c rest =>
    rw [isParameterName, Bool.and_eq_true, isNameStart_iff, List.all_eq_true]
    simp only [isNamePart_iff]
    constructor
    · rintro ⟨first, others⟩
      exact ⟨c, rest, rfl, first, others⟩
    · rintro ⟨d, others, whole, first, parts⟩
      obtain ⟨rfl, rfl⟩ := List.cons.inj whole
      exact ⟨first, parts⟩

/-- A name does not hold the character that ends a placeholder. -/
theorem NamesParameter.closing_not_mem {name : Text} (h : NamesParameter name) :
    '\x7d' ∉ name := by
  have noStart : ¬ IsNameStart '\x7d' := by decide
  have noPart : ¬ IsNamePart '\x7d' := by decide
  obtain ⟨c, rest, rfl, first, others⟩ := h
  rintro (_ | ⟨_, later⟩)
  · exact noStart first
  · exact noPart (others _ later)

/-- A name stands at the start of a text, closed as in a placeholder. -/
def ClosesName (behind : Text) : Prop :=
  ∃ name rest, NamesParameter name ∧ behind = name ++ '\x7d' :: rest

/-- What stands before the first closing character is a name, or nothing is closed. -/
theorem closesName_iff {behind : Text} : ClosesName behind ↔
    '\x7d' ∈ behind ∧ isParameterName (behind.headBefore '\x7d') = true := by
  constructor
  · rintro ⟨name, rest, named, rfl⟩
    rw [Text.headBefore_append_cons rest named.closing_not_mem]
    exact ⟨List.mem_append_right name List.mem_cons_self, isParameterName_iff.2 named⟩
  · rintro ⟨closed, accepted⟩
    obtain ⟨name, rest, rfl, free⟩ := List.eq_append_cons_of_mem closed
    rw [Text.headBefore_append_cons rest free] at accepted
    exact ⟨name, rest, isParameterName_iff.1 accepted, rfl⟩

instance : DecidablePred ClosesName := fun _ => decidable_of_iff _ closesName_iff.symm

/-- How a placeholder begins. -/
def opening : Text := ['%', '\x7b']

/-- How a parameter is written. -/
def placeholder (name : String) : Text := opening ++ name.toList ++ ['\x7d']

/-! ## Texts taken apart -/

/-- A text taken apart at its placeholders: the literal text before the first one, and the names of the
parameters, each with the literal text behind it. -/
structure Composition where
  first : Text
  rest : List (String × Text)

namespace Composition

/-- The literal texts with other texts in the place of the placeholders. -/
def fill (value : String → Text) (c : Composition) : Text :=
  c.first ++ c.rest.flatMap fun part => value part.1 ++ part.2

/-- The text that has been taken apart. -/
def text (c : Composition) : Text := c.fill placeholder

/-- The names in the placeholders, in order. -/
def names (c : Composition) : List String := c.rest.map Prod.fst

/-- The literal texts, in order. -/
def literals (c : Composition) : List Text := c.first :: c.rest.map Prod.snd

/-- The grammar of the parts: the names can name parameters, and no placeholder begins in a literal
text. -/
structure IsProper (c : Composition) : Prop where
  named : ∀ name ∈ c.names, NamesParameter name.toList
  plain : ∀ t ∈ c.literals, ¬ opening <:+: t

/-- The parts as they are kept in a template. -/
def segments (c : Composition) : List Segment :=
  .literal c.first :: c.rest.flatMap fun part => [.parameter part.1, .literal part.2]

/-- A text whose first broken placeholder stands behind some parts: no name is closed behind its
beginning. -/
structure BreaksOff (c : Composition) (behind s : Text) : Prop where
  proper : c.IsProper
  whole : s = c.text ++ opening ++ behind
  broken : ¬ ClosesName behind

variable {c : Composition} {t u : Text} {name : String} {parts : List (String × Text)}
  {value : String → Text}

theorem fill_cons : fill value ⟨t, (name, u) :: parts⟩ = t ++ (value name ++ fill value ⟨u, parts⟩) := by
  simp [fill]

theorem isProper_iff : c.IsProper ↔ (∀ name ∈ c.names, isParameterName name.toList = true) ∧
    ∀ t ∈ c.literals, ¬ Text.hasInfix opening t = true := by
  simp only [isParameterName_iff, Text.hasInfix_iff]
  exact ⟨fun ⟨named, plain⟩ => ⟨named, plain⟩, fun ⟨named, plain⟩ => ⟨named, plain⟩⟩

instance : DecidablePred IsProper := fun _ => decidable_of_iff _ isProper_iff.symm

theorem isProper_single_iff : IsProper ⟨t, []⟩ ↔ ¬ opening <:+: t :=
  ⟨fun h => h.plain t List.mem_cons_self,
    fun plain => ⟨nofun, fun _ member => List.mem_singleton.1 member ▸ plain⟩⟩

theorem isProper_cons_iff : IsProper ⟨t, (name, u) :: parts⟩ ↔
    ¬ opening <:+: t ∧ NamesParameter name.toList ∧ IsProper ⟨u, parts⟩ := by
  constructor
  · rintro ⟨named, plain⟩
    obtain ⟨here, later⟩ := List.forall_mem_cons.1 named
    obtain ⟨first, others⟩ := List.forall_mem_cons.1 plain
    exact ⟨first, here, later, others⟩
  · rintro ⟨first, here, later, others⟩
    exact ⟨List.forall_mem_cons.2 ⟨here, later⟩, List.forall_mem_cons.2 ⟨first, others⟩⟩

end Composition

/-! ## Reading -/

namespace Template

variable {t behind s : Text} {name : String} {c : Composition}

/-- Text in which no placeholder begins is kept as it is. -/
theorem parseFrom_of_plain (seen rest : Text) (plain : ¬ opening <:+: seen.reverse ++ t) :
    parseFrom false seen (t ++ rest) = parseFrom false (t.reverse ++ seen) rest := by
  induction t generalizing seen with
  | nil => rfl
  | cons c t ih =>
    have step : ¬ (c = '\x7b' ∧ seen.head? = some '%') := by
      rintro ⟨rfl, percent⟩
      obtain ⟨before, rfl⟩ : ∃ before, seen = '%' :: before := List.head?_eq_some_iff.1 percent
      exact plain ⟨before.reverse, t, by simp [opening]⟩
    have onward : ¬ opening <:+: (c :: seen).reverse ++ t := by simpa using plain
    rw [List.cons_append, parseFrom, if_neg Bool.false_ne_true, if_neg step, ih _ onward]
    simp

theorem parseFrom_opening (seen rest : Text) : parseFrom false seen (opening ++ rest) =
    (parseFrom true [] rest).map (.literal seen.reverse :: ·) := by
  simp [opening, parseFrom]

/-- A name is kept up to the character that ends a placeholder. -/
theorem parseFrom_of_not_mem (seen rest : Text) (free : '\x7d' ∉ t) :
    parseFrom true seen (t ++ rest) = parseFrom true (t.reverse ++ seen) rest := by
  induction t generalizing seen with
  | nil => rfl
  | cons c t ih =>
    obtain ⟨other, free⟩ := not_or.1 (mt List.mem_cons.2 free)
    rw [List.cons_append, parseFrom, if_pos rfl, if_neg fun same => other same.symm, ih _ free]
    simp

/-- A literal text and a placeholder are read, and then the rest. -/
theorem parseFrom_placeholder (plain : ¬ opening <:+: t) (named : NamesParameter name.toList)
    (rest : Text) : parseFrom false [] (t ++ (placeholder name ++ rest)) =
      (parseFrom false [] rest).map fun s => .literal t :: .parameter name :: s := by
  have accepted := isParameterName_iff.2 named
  have last : parseFrom true name.toList.reverse ('\x7d' :: rest) =
      (parseFrom false [] rest).map (.parameter name :: ·) := by
    simp [parseFrom, accepted]
  rw [parseFrom_of_plain [] _ plain, placeholder, List.append_assoc, List.append_assoc,
    parseFrom_opening, parseFrom_of_not_mem _ _ named.closing_not_mem]
  simp only [List.append_nil, List.reverse_reverse, List.singleton_append, last]
  cases parseFrom false [] rest with
  | error defect => rfl
  | ok segments => rfl

/-- Where no name is closed behind the beginning of a placeholder, reading ends. -/
theorem parseFrom_broken (plain : ¬ opening <:+: t) (broken : ¬ ClosesName behind) :
    parseFrom false [] (t ++ (opening ++ behind)) =
      .error (if '\x7d' ∈ behind then .invalidName (behind.headBefore '\x7d')
        else .unterminated) := by
  rw [parseFrom_of_plain [] _ plain, parseFrom_opening]
  by_cases closed : '\x7d' ∈ behind
  · obtain ⟨name, rest, rfl, free⟩ := List.eq_append_cons_of_mem closed
    have refused : isParameterName name = false :=
      Bool.eq_false_iff.2 fun accepted => broken ⟨name, rest, isParameterName_iff.1 accepted, rfl⟩
    rw [parseFrom_of_not_mem _ _ free, if_pos closed, Text.headBefore_append_cons rest free]
    simp [parseFrom, refused, Except.map]
  · have whole := parseFrom_of_not_mem [] [] closed
    rw [List.append_nil] at whole
    rw [whole, if_neg closed]
    rfl

/-- A text of the grammar is read as its parts. -/
theorem parse_of_proper (proper : c.IsProper) : parse c.text = .ok ⟨c.segments⟩ := by
  suffices read : parseFrom false [] c.text = .ok c.segments by rw [parse, read]
  obtain ⟨t, parts⟩ := c
  induction parts generalizing t with
  | nil =>
    have plain := Composition.isProper_single_iff.1 proper
    have whole := parseFrom_of_plain [] [] plain
    rw [List.append_nil, List.append_nil] at whole
    show parseFrom false [] (t ++ []) = .ok [.literal t]
    rw [List.append_nil, whole, parseFrom, if_neg Bool.false_ne_true, List.reverse_reverse]
  | cons part parts ih =>
    obtain ⟨plain, named, later⟩ := Composition.isProper_cons_iff.1 proper
    rw [Composition.text, Composition.fill_cons, parseFrom_placeholder plain named]
    show (parseFrom false [] (Composition.text ⟨part.2, parts⟩)).map _ = _
    rw [ih _ later]
    rfl

/-- A text with a broken placeholder is not read, for want of the character that ends it or because of
what stands before that character. -/
theorem parse_of_breaksOff (breaks : c.BreaksOff behind s) :
    parse s = .error (.malformedTemplate s (if '\x7d' ∈ behind then
      .invalidName (behind.headBefore '\x7d') else .unterminated)) := by
  suffices read : parseFrom false [] s = .error (if '\x7d' ∈ behind then
      .invalidName (behind.headBefore '\x7d') else .unterminated) by rw [parse, read]
  obtain ⟨proper, rfl, broken⟩ := breaks
  obtain ⟨t, parts⟩ := c
  induction parts generalizing t with
  | nil =>
    have plain := Composition.isProper_single_iff.1 proper
    show parseFrom false [] (t ++ [] ++ opening ++ behind) = _
    rw [List.append_nil, List.append_assoc, parseFrom_broken plain broken]
  | cons part parts ih =>
    obtain ⟨plain, named, later⟩ := Composition.isProper_cons_iff.1 proper
    have here := ih _ later
    rw [Composition.text] at here ⊢
    rw [Composition.fill_cons]
    simp only [List.append_assoc] at here ⊢
    rw [parseFrom_placeholder plain named, here]
    rfl

end Template

/-! ## Every text -/

/-- A text is of the grammar, or it has a first broken placeholder. -/
theorem Composition.exists_proper_or_breaksOff (s : Text) :
    (∃ c : Composition, c.IsProper ∧ c.text = s) ∨
      ∃ (c : Composition) (behind : Text), c.BreaksOff behind s := by
  by_cases begins : opening <:+: s
  · obtain ⟨t, behind, whole, plain⟩ := Text.exists_first_occurrence (by decide) begins
    by_cases closed : ClosesName behind
    · obtain ⟨name, rest, named, rfl⟩ := closed
      rw [← String.toList_ofList (l := name)] at named
      rcases exists_proper_or_breaksOff rest with
        ⟨⟨u, parts⟩, proper, rest⟩ | ⟨⟨u, parts⟩, behind, proper, rest, broken⟩
      · refine .inl ⟨⟨t, (String.ofList name, u) :: parts⟩,
          isProper_cons_iff.2 ⟨plain, named, proper⟩, ?_⟩
        rw [text, fill_cons, ← text, rest, whole]
        simp [placeholder]
      · refine .inr ⟨⟨t, (String.ofList name, u) :: parts⟩, behind,
          isProper_cons_iff.2 ⟨plain, named, proper⟩, ?_, broken⟩
        rw [text, fill_cons, ← text, whole, rest]
        simp [placeholder]
    · exact .inr ⟨⟨t, []⟩, behind, isProper_single_iff.2 plain, by simp [text, fill, whole], closed⟩
  · exact .inl ⟨⟨s, []⟩, isProper_single_iff.2 begins, by simp [text, fill]⟩
  termination_by s.length
  decreasing_by
    simp only [whole, List.length_append, List.length_cons]
    omega

theorem Composition.segments_injective : Function.Injective segments := by
  rintro ⟨t, parts⟩ ⟨u, others⟩ same
  obtain ⟨first, rest⟩ := List.cons.inj same
  obtain rfl := Segment.literal.inj first
  suffices parts = others by rw [this]
  clear same first
  induction parts generalizing others with
  | nil =>
    cases others with
    | nil => rfl
    | cons => contradiction
  | cons part parts ih =>
    cases others with
    | nil => contradiction
    | cons other others =>
      obtain ⟨name, behind⟩ := List.cons.inj rest
      obtain ⟨text, later⟩ := List.cons.inj behind
      rw [ih others later, Prod.ext (Segment.parameter.inj name) (Segment.literal.inj text)]

/-- A text comes apart in one way only, as what is read does not depend on the way. -/
theorem Composition.IsProper.eq_of_text {c d : Composition} (h : c.IsProper) (h' : d.IsProper)
    (same : c.text = d.text) : c = d := by
  have read := Template.parse_of_proper h
  rw [same, Template.parse_of_proper h'] at read
  exact segments_injective (Template.mk.inj (Except.ok.inj read)).symm

namespace Template

variable {t : Template} {c : Composition} {b : Bindings}

/-- What has been read are the parts of a text of the grammar. -/
theorem exists_of_parse {s : Text} (read : parse s = .ok t) :
    ∃ c : Composition, c.IsProper ∧ c.text = s ∧ t = ⟨c.segments⟩ := by
  rcases Composition.exists_proper_or_breaksOff s with ⟨c, proper, rfl⟩ | ⟨c, behind, breaks⟩
  · rw [parse_of_proper proper] at read
    exact ⟨c, proper, rfl, (Except.ok.inj read).symm⟩
  · rw [parse_of_breaksOff breaks] at read
    contradiction

theorem fill_segments (value : String → Text) : fill ⟨c.segments⟩ value = c.fill value := by
  simp only [fill, Composition.segments, Composition.fill, List.flatMap_cons, Segment.fill,
    List.flatMap_assoc]
  simp

/-- The text of a template is its filling with placeholders. -/
theorem source_eq_fill : t.source = t.fill placeholder := by
  have same : Segment.source = Segment.fill placeholder := by
    funext segment
    cases segment with
    | literal => rfl
    | parameter => rfl
  rw [source, fill, same]

/-- The parameters as they are used, in order. -/
def uses (t : Template) : List String :=
  t.segments.filterMap fun
    | .literal _ => none
    | .parameter name => some name

theorem parameters_eq : t.parameters = t.uses.eraseDups := rfl

theorem uses_segments : uses ⟨c.segments⟩ = c.names := by
  obtain ⟨first, parts⟩ := c
  rw [uses, Composition.segments, Composition.names, List.filterMap_cons]
  induction parts with
  | nil => rfl
  | cons part parts ih => simpa using ih

theorem source_segments : source ⟨c.segments⟩ = c.text := by
  rw [source_eq_fill, fill_segments, Composition.text]

/-- The parameters are the names in the placeholders by their first use. -/
theorem listsFirstUses_parameters : ListsFirstUses c.names (parameters ⟨c.segments⟩) := by
  rw [parameters_eq, uses_segments]
  exact listsFirstUses_eraseDups c.names

/-- A template whose parameters are bound to their placeholders is rendered as it is written. -/
theorem render_placeholders
    (bound : ∀ name ∈ t.parameters, b.get? name = some (placeholder name)) :
    t.render b .raw = .ok t.source := by
  rw [render_eq_fill placeholder bound, source_eq_fill]
  rfl

/-- A text is read as a template just if it consists of literal texts, in which no placeholder begins,
and of placeholders between them. Then the parameters are the names in the placeholders by their first
use, and the template is written as the text, which comes back also when each parameter is bound to its
own placeholder. Any other text has a first broken placeholder, and it is refused with the whole text:
for want of the character that ends a placeholder, or else because of what stands before it. -/
theorem parses_grammar (s : Text) :
    ((∃ t, parse s = .ok t) ↔ ∃ c : Composition, c.IsProper ∧ c.text = s) ∧
    (∀ c : Composition, c.IsProper → c.text = s → ∃ t, parse s = .ok t ∧
      ListsFirstUses c.names t.parameters ∧ t.source = s ∧
      ∀ b : Bindings, (∀ name ∈ t.parameters, b.get? name = some (placeholder name)) →
        t.render b .raw = .ok s) ∧
    ((¬ ∃ c : Composition, c.IsProper ∧ c.text = s) →
      ∃ (c : Composition) (behind : Text), c.BreaksOff behind s) ∧
    ∀ (c : Composition) (behind : Text), c.BreaksOff behind s →
      parse s = .error (.malformedTemplate s (if '\x7d' ∈ behind then
        .invalidName (behind.headBefore '\x7d') else .unterminated)) := by
  refine ⟨⟨?_, ?_⟩, ?_, ?_, fun c behind breaks => parse_of_breaksOff breaks⟩
  · rintro ⟨t, read⟩
    obtain ⟨c, proper, whole, -⟩ := exists_of_parse read
    exact ⟨c, proper, whole⟩
  · rintro ⟨c, proper, rfl⟩
    exact ⟨_, parse_of_proper proper⟩
  · rintro c proper rfl
    refine ⟨_, parse_of_proper proper, listsFirstUses_parameters, source_segments,
      fun b bound => ?_⟩
    rw [render_placeholders bound, source_segments]
  · exact fun improper => (Composition.exists_proper_or_breaksOff s).resolve_left improper

/-- A percent sign before a placeholder, a character of two bytes, a name with a dot that is used twice,
and two texts that break off. -/
theorem parses_grammar_of_sample :
    let s := "%%\x7ba.b\x7dé%\x7b_x\x7d%\x7ba.b\x7d".toList
    (∃ t, parse s = .ok t ∧ ListsFirstUses ["a.b", "_x", "a.b"] t.parameters ∧
      t.parameters = ["a.b", "_x"] ∧ t.source = s ∧
      t.render ((Bindings.empty.bind "_x" (placeholder "_x")).bind "a.b" (placeholder "a.b")) .raw =
        .ok s) ∧
      parse "%\x7ba\x7d%\x7bb%\x7bc\x7d".toList =
        .error (.malformedTemplate "%\x7ba\x7d%\x7bb%\x7bc\x7d".toList
          (.invalidName "b%\x7bc".toList)) ∧
      parse "%\x7ba\x7d%\x7bb".toList =
        .error (.malformedTemplate "%\x7ba\x7d%\x7bb".toList .unterminated) := by
  intro s
  let c : Composition := ⟨['%'], [("a.b", ['é']), ("_x", []), ("a.b", [])]⟩
  obtain ⟨-, accepted, -⟩ := parses_grammar s
  obtain ⟨t, read, uses, written, filled⟩ := accepted c (by decide) (by decide)
  have parameters : t.parameters = ["a.b", "_x"] := by
    have computed : (parse s).map Template.parameters = .ok ["a.b", "_x"] := by decide
    rw [read] at computed
    exact Except.ok.inj computed
  obtain ⟨-, -, -, refused⟩ := parses_grammar "%\x7ba\x7d%\x7bb%\x7bc\x7d".toList
  obtain ⟨-, -, -, unclosed⟩ := parses_grammar "%\x7ba\x7d%\x7bb".toList
  let first : Composition := ⟨[], [("a", [])]⟩
  refine ⟨⟨t, read, uses, parameters, written, filled _ ?_⟩,
    refused first "b%\x7bc\x7d".toList ⟨by decide, by decide, by decide⟩,
    unclosed first ['b'] ⟨by decide, by decide, by decide⟩⟩
  rw [parameters]
  decide

end Template

end HookGraft

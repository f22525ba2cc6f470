import HookGraft.Proofs.Pattern.Signature
import HookGraft.Proofs.Regex.Shape

/-!
# Locating a text as it is

An escaped text is a signature without parameters that locates the text itself, and nothing else:
the first fragment is the leftmost occurrence, and all fragments are the occurrences from left to
right that do not overlap. Only a text that is too long makes no pattern.

## Main definitions

* `Match.IsFirst`: the first occurrence of a text behind a place
* `Occurrences`: the occurrences of a text from left to right, without overlap
* `Locator.Finds`: a locator that finds the occurrences of a text

## Main results

* `Regex.occurrences_of_scans`: the matches of a text are its occurrences
* `Signature.locates_escaped`: an escaped text locates the text, unless it is too long
-/

namespace HookGraft

/-- A match that is the first occurrence of a text behind a place, and has no groups. -/
structure Match.IsFirst (m : Match) (part : Text) (p : Cursor) : Prop where
  fragment : m.whole.text = part
  groups : m.groups = []
  inside : m.whole.start.Passes part m.whole.stop
  leftmost : ∃ before, p.Passes before m.whole.start ∧
    ∀ b a, p.after = b ++ part ++ a → before.length ≤ b.length

/-- The occurrences of a text from a place on: each is the first one behind the one before it, and
there is none behind the last. -/
inductive Occurrences (part : Text) : Cursor → List Match → Prop where
  | nil {p : Cursor} : ¬ part <:+: p.after → Occurrences part p []
  | cons {p : Cursor} {m : Match} {rest : List Match} :
      m.IsFirst part p → Occurrences part m.whole.stop rest → Occurrences part p (m :: rest)

theorem Match.IsFirst.occurs {m : Match} {part : Text} {p : Cursor} (h : m.IsFirst part p) :
    part <:+: p.after := by
  obtain ⟨before, pass, -⟩ := h.leftmost
  exact ⟨before, m.whole.stop.after, by rw [pass.after, h.inside.after, List.append_assoc]⟩

/-- There are no occurrences just if the text does not occur. -/
theorem Occurrences.eq_nil_iff {part : Text} {p : Cursor} {ms : List Match}
    (h : Occurrences part p ms) : ms = [] ↔ ¬ part <:+: p.after := by
  cases h with
  | nil absent => exact ⟨fun _ => absent, fun _ => rfl⟩
  | cons first _ => exact ⟨fun none => by contradiction, fun absent => absurd first.occurs absent⟩

namespace Regex

variable {part : Text} {p : Cursor} {m : Match} {ms : List Match}

/-- A text is read nowhere just if it does not occur. -/
theorem noneFrom_text_iff : (text part).NoneFrom p ↔ ¬ part <:+: p.after :=
  (Describes.text part).noneFrom_iff.trans forall_eq

/-- The leftmost match of a text is its first occurrence. -/
theorem Matches.isFirst {before : Text} (h : (text part).Matches m)
    (pass : p.Passes before m.whole.start) (first : (text part).NoneBefore p m.whole.start) :
    m.IsFirst part p := by
  obtain ⟨fragment, inside, before, pass, least⟩ := (Describes.text part).isLeftmost h pass first
  obtain ⟨t, -, eq⟩ := h
  exact ⟨fragment, by rw [eq]; rfl, fragment ▸ inside, before, pass, fun b a whole =>
    least b part a whole rfl⟩

/-- The matches of a text are its occurrences. -/
theorem occurrences_of_scans (h : (text part).Scans p ms) : Occurrences part p ms := by
  induction h with
  | nil enough none => exact .nil (noneFrom_text_iff.1 (noneFrom_of_firstFrom? enough none))
  | cons enough found _ ih =>
    obtain ⟨isMatch, before, pass⟩ := Automaton.firstFrom?_sound found
    exact .cons (isMatch.isFirst pass (noneBefore_of_firstFrom? enough found)) ih

theorem occurrences_allMatches (proper : part ≠ []) (whole : Text) :
    Occurrences part (Cursor.start whole) ((text part).allMatches whole) :=
  occurrences_of_scans (allMatches_scans (by simpa [canReadNothing] using proper))

end Regex

/-- A locator that finds the occurrences of a text, on behalf of a rule. -/
structure Locator.Finds (l : Locator) (rule : String) (part : Text) : Prop where
  first : ∀ text, part <:+: text → ∃ m, l.first text = .ok m ∧ m.IsFirst part (Cursor.start text)
  first_none : ∀ text, ¬ part <:+: text →
    l.first text = .error (.patternNotFound rule (escape part))
  all : ∀ text, part ≠ [] → part <:+: text →
    ∃ ms, l.all text = .ok ms ∧ Occurrences part (Cursor.start text) ms
  all_none : ∀ text, part ≠ [] → ¬ part <:+: text →
    l.all text = .error (.patternNotFound rule (escape part))

/-- The locator of a text that stands for itself. -/
def Locator.verbatim (rule : String) (part : Text) : Locator where
  rule := rule
  pattern := escape part
  regex := .text part

/-- What locates a text as it is finds just its occurrences. -/
theorem Locator.finds_verbatim (rule : String) (part : Text) :
    (verbatim rule part).Finds rule part where
  first text occurs := by
    cases found : (Regex.text part).first? text with
    | none => exact absurd occurs (Regex.noneFrom_text_iff.1 (Regex.first?_eq_none_iff.1 found))
    | some m =>
      obtain ⟨isMatch, before, pass⟩ := Regex.first?_sound found
      exact ⟨m, by simp [Locator.first, verbatim, found],
        isMatch.isFirst pass (Regex.noneBefore_of_first? found)⟩
  first_none text absent := by
    have none := Regex.first?_eq_none_iff.2 (Regex.noneFrom_text_iff.2 absent)
    simp [Locator.first, verbatim, none, notFound]
  all text proper occurs := by
    have found := Regex.occurrences_allMatches proper text
    have nonempty := mt found.eq_nil_iff.1 (not_not_intro occurs)
    exact ⟨_, by simp [Locator.all, verbatim], found⟩
  all_none text proper absent := by
    have none := (Regex.occurrences_allMatches proper text).eq_nil_iff.2 absent
    simp [Locator.all, verbatim, none, notFound]

namespace Signature

/-- An escaped text is read as a pattern for the text. -/
theorem compile_escape (part : Text) (multiline : Bool) (rule : String) (bindings : Bindings) :
    compile ⟨⟨[.literal (escape part)]⟩, multiline⟩ rule bindings =
      (Locator.verbatim rule part).checked := by
  have rendered : Template.render ⟨[.literal (escape part)]⟩ bindings .escaped =
      .ok (escape part) := by
    rw [Template.render_of_no_parameters rfl]
    simp [Template.source, Segment.source]
  exact StandsFor.compile ⟨rendered, Regex.parse?_escape _ rfl rfl part⟩ rule

/-- An escaped text is a signature that locates the text itself, whatever characters it holds: it
is read as a template without parameters, rendered and read as a pattern. A text of more than 327673
bytes makes a pattern that is too large. -/
theorem locates_escaped (part : Text) (multiline : Bool) (rule : String) (bindings : Bindings) :
    ∃ t, Template.parse (escape part) = .ok t ∧ t.parameters = [] ∧
      (Text.utf8Size part ≤ 327673 →
        ∃ l, compile ⟨t, multiline⟩ rule bindings = .ok l ∧ l.Finds rule part) ∧
      (327673 < Text.utf8Size part →
        compile ⟨t, multiline⟩ rule bindings =
          .error (.invalidPattern rule (escape part) .tooLarge)) := by
  have compiled := compile_escape part multiline rule bindings
  have large : (Locator.verbatim rule part).regex.isTooLarge = true ↔ 327673 < Text.utf8Size part :=
    Regex.isTooLarge_text
  refine ⟨_, Template.parse_escape part, rfl, fun fits => ?_, fun exceeds => ?_⟩
  · have within := Bool.eq_false_iff.2 (mt large.1 (Nat.not_lt.2 fits))
    exact ⟨_, compiled.trans (Locator.checked_eq_ok within), Locator.finds_verbatim rule part⟩
  · exact compiled.trans (Locator.checked_eq_error (large.2 exceeds))

/-- A text of 400000 letters does not make a pattern. -/
theorem locates_escaped_not_long :
    let part := List.replicate 400000 'a'
    (∃ t, Template.parse (escape part) = .ok t ∧
      compile ⟨t, false⟩ "r" .empty = .error (.invalidPattern "r" (escape part) .tooLarge)) ∧
      ¬ ∃ t l, Template.parse (escape part) = .ok t ∧ t.parameters = [] ∧
        compile ⟨t, false⟩ "r" .empty = .ok l ∧ l.Finds "r" part := by
  intro part
  have size : Text.utf8Size part = 400000 :=
    (Text.utf8Size_replicate 400000 'a').trans (by decide)
  have large : (Locator.verbatim "r" part).regex.isTooLarge = true :=
    Regex.isTooLarge_text.2 (by rw [size]; decide)
  have failed := (compile_escape part false "r" .empty).trans (Locator.checked_eq_error large)
  refine ⟨⟨_, Template.parse_escape part, failed⟩, ?_⟩
  rintro ⟨t, l, parsed, -, compiled, -⟩
  obtain rfl := Except.ok.inj ((Template.parse_escape part).symm.trans parsed)
  exact nomatch failed.symm.trans compiled

end Signature

end HookGraft

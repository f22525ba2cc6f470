import HookGraft.Proofs.Edit
import HookGraft.Proofs.Fallible
import HookGraft.Proofs.Regex.Evaluation
import HookGraft.Proofs.Regex.Groups
import HookGraft.Proofs.Regex.Sweep

/-!
# The ways of locating fragments

A signature locates the first fragment, all fragments, or the only one that is accepted. The three
ways search alike, whatever the term of the pattern is: all fragments come in strict order, the first
one is the head of them, and the only one is what is left of them. Fragments and what their groups
read are parts of the text, and their byte offsets never fall inside a character.

## Main definitions

* `Extent.IsSliceOf`: a part of a text by its byte offsets
* `Regex.Lists`: what the list of all matches of a term is
* `Locator.Coherent`: how the three ways agree about a list of matches

## Main results

* `Regex.lists_allMatches`: a search for all matches lists them
* `Locator.locates_alike`: the three ways of locating agree
-/

namespace HookGraft

/-! ## Parts of a text -/

/-- A part of a text: at both of its byte offsets the text can be cut, and between them stands the
text of the part. -/
def Extent.IsSliceOf (e : Extent) (text : Text) : Prop :=
  ∃ before after, text.seekByte? e.start.offset = some (before, e.text ++ after) ∧
    text.seekByte? e.stop.offset = some (before ++ e.text, after)

/-- What lies between two places of a text is a part of it. -/
theorem Cursor.Passes.isSliceOf {text s t : Text} {e : Extent}
    (pass : (Cursor.start text).Passes s e.start) (inside : e.start.Passes t e.stop) :
    e.IsSliceOf text := by
  have part : e.text = t := inside.extent_text
  have behind : text = s ++ (t ++ e.stop.after) := by rw [← inside.after, ← pass.after]; rfl
  have first : e.start.offset = Text.utf8Size s := by
    rw [pass.offset]
    exact Nat.zero_add _
  have last : e.stop.offset = Text.utf8Size (s ++ t) := by
    rw [inside.offset, first, Text.utf8Size_append]
  refine ⟨s, e.stop.after, Text.seekByte?_eq_some_iff.2 ⟨part ▸ behind, first.symm⟩,
    Text.seekByte?_eq_some_iff.2 ⟨?_, part ▸ last.symm⟩⟩
  rw [part, List.append_assoc]
  exact behind

/-! ## All matches -/

/-- A match inside a text. It is a part of the text, and so is what each group read that took part,
which lies inside the match. -/
structure Match.LiesIn (m : Match) (text : Text) : Prop where
  whole : m.whole.IsSliceOf text
  groups : ∀ i e, m.group? i = some e → e.IsSliceOf text ∧
    m.whole.start.offset ≤ e.start.offset ∧ e.stop.offset ≤ m.whole.stop.offset

/-- A list of all matches of a term. They come in strict order, and there is one at most for each
character and one at the end. Wherever the term reads something, a match begins there or has begun
and not yet ended. -/
structure Regex.Lists (r : Regex) (text : Text) (ms : List Match) : Prop where
  areMatches : ∀ m ∈ ms, r.Matches m
  lieIn : ∀ m ∈ ms, m.LiesIn text
  ordered : ms.Pairwise Match.Precedes
  length_le : ms.length ≤ text.length + 1
  complete : ∀ s p marks q, (Cursor.start text).Passes s p → r.Reads p marks q →
    ∃ m ∈ ms, m.whole.start.offset ≤ p.offset ∧ p.offset ≤ m.whole.stop.offset

namespace Regex

variable {r : Regex} {text s : Text} {m : Match}

theorem Matches.liesIn (h : r.Matches m) (pass : (Cursor.start text).Passes s m.whole.start) :
    m.LiesIn text where
  whole := by
    obtain ⟨t, inside⟩ := h.passes
    exact pass.isSliceOf inside
  groups i e found := by
    obtain ⟨before, inside, after, ahead, here, behind⟩ := h.group_inside found
    exact ⟨(pass.trans ahead).isSliceOf here, ahead.offset_le, behind.offset_le⟩

/-- A search for all matches lists them. -/
theorem lists_allMatches (r : Regex) (text : Text) : r.Lists text (r.allMatches text) where
  areMatches _ member := (allMatches_sound.of_mem member).1
  lieIn m member := by
    obtain ⟨isMatch, s, pass⟩ := allMatches_sound.of_mem member
    exact isMatch.liesIn pass
  ordered := (allMatches_sweeps r text).pairwise
  length_le := (allMatches_sweeps r text).length_le
  complete s p marks q pass reads := by
    rcases (allMatches_sweeps r text).touches pass reads with ⟨never, -⟩ | touched
    · contradiction
    · exact touched

end Regex

/-! ## The three ways -/

/-- A signature is compiled to its rule, the pattern as it is rendered, and the term that the pattern
stands for. -/
theorem Signature.compile_eq_ok_iff {s : Signature} {rule : String} {b : Bindings} {l : Locator} :
    s.compile rule b = .ok l ↔ l.rule = rule ∧ s.template.render b .escaped = .ok l.pattern ∧
      Regex.ofText { dotAll := s.multiline } l.pattern = .ok l.regex := by
  rw [compile, Except.bind_eq_ok]
  constructor
  · rintro ⟨pattern, rendered, done⟩
    split at done
    · rename_i regex term
      obtain rfl := Except.ok.inj done
      exact ⟨rfl, rendered, term⟩
    · contradiction
  · rintro ⟨rfl, rendered, term⟩
    exact ⟨l.pattern, rendered, by rw [term]⟩

/-- What a group of a match has read, and where, is found for the same numbers. Both are found if the
group took part, and then they are a part of the text inside the match. No group has the number
zero. -/
def Match.HasGroups (m : Match) (rule : String) (text : Text) : Prop :=
  ∀ i, (∃ e t, m.captureSpan rule i = .ok e ∧ m.capture rule i = .ok t ∧ i ≠ 0 ∧ e.text = t ∧
      e.IsSliceOf text ∧ m.whole.start.offset ≤ e.start.offset ∧
        e.stop.offset ≤ m.whole.stop.offset) ∨
    m.captureSpan rule i = .error (.malformedFragment rule (.groupAbsent i)) ∧
      m.capture rule i = .error (.malformedFragment rule (.groupAbsent i))

theorem Match.LiesIn.hasGroups {m : Match} {text : Text} (h : m.LiesIn text) (rule : String) :
    m.HasGroups rule text := by
  intro i
  cases found : m.group? i with
  | none => exact .inr ⟨captureSpan_eq_error rule found, capture_eq_error rule found⟩
  | some e =>
    refine .inl ⟨e, e.text, captureSpan_eq_ok rule found, capture_eq_ok rule found, ?_, rfl,
      h.groups i e found⟩
    rintro rfl
    contradiction

/-- The three ways of locating fragments agree about a list of matches. They fail with the pattern as
it was rendered just where the term reads nothing, or where no match is accepted. -/
structure Locator.Coherent (l : Locator) (text : Text) (ms : List Match) : Prop where
  all_ok : ∀ found, l.all text = .ok found ↔ found = ms ∧ ms ≠ []
  all_error : ∀ e, l.all text = .error e ↔
    e = .patternNotFound l.rule l.pattern ∧ l.regex.NoneFrom (Cursor.start text)
  first_ok : ∀ m, l.first text = .ok m ↔ ∃ rest, l.all text = .ok (m :: rest)
  first_error : ∀ e, l.first text = .error e ↔ l.all text = .error e
  leftmost : ∀ m, l.first text = .ok m → l.regex.NoneBefore (Cursor.start text) m.whole.start
  unique_ok : ∀ accept m, l.unique text accept = .ok m ↔ ms.filter accept = [m]
  unique_error : ∀ accept e, l.unique text accept = .error e ↔
    ms.filter accept = [] ∧ e = .patternNotFound l.rule l.pattern ∨
      1 < (ms.filter accept).length ∧
        e = .unexpectedShape l.rule "candidate fragments" 1 (ms.filter accept).length

namespace Locator

variable {l : Locator} {text : Text} {accept : Match → Bool}

theorem all_eq_ok_iff {found : List Match} :
    l.all text = .ok found ↔ found = l.regex.allMatches text ∧ l.regex.allMatches text ≠ [] := by
  unfold all
  cases l.regex.allMatches text with
  | nil => simp
  | cons m rest => simp [eq_comm]

theorem all_eq_error_iff {e : PatchError} : l.all text = .error e ↔
    e = .patternNotFound l.rule l.pattern ∧ l.regex.NoneFrom (Cursor.start text) := by
  rw [← Regex.allMatches_eq_nil_iff]
  unfold all
  cases l.regex.allMatches text with
  | nil => simp [notFound, eq_comm]
  | cons m rest => simp

theorem first_eq_ok_iff {m : Match} :
    l.first text = .ok m ↔ ∃ rest, l.all text = .ok (m :: rest) := by
  rw [first, all, ← Regex.head?_allMatches]
  cases l.regex.allMatches text with
  | nil => simp
  | cons m' rest => simp

theorem first_eq_error_iff {e : PatchError} :
    l.first text = .error e ↔ l.all text = .error e := by
  rw [first, all, ← Regex.head?_allMatches]
  cases l.regex.allMatches text with
  | nil => simp
  | cons m rest => simp

theorem unique_eq_ok_iff {m : Match} :
    l.unique text accept = .ok m ↔ (l.regex.allMatches text).filter accept = [m] := by
  unfold unique
  rcases (l.regex.allMatches text).filter accept with _ | ⟨m', _ | ⟨m'', rest⟩⟩
  · simp
  · simp
  · simp

theorem unique_eq_error_iff {e : PatchError} : l.unique text accept = .error e ↔
    (l.regex.allMatches text).filter accept = [] ∧ e = .patternNotFound l.rule l.pattern ∨
      1 < ((l.regex.allMatches text).filter accept).length ∧
        e = .unexpectedShape l.rule "candidate fragments" 1
          ((l.regex.allMatches text).filter accept).length := by
  unfold unique
  rcases (l.regex.allMatches text).filter accept with _ | ⟨m', _ | ⟨m'', rest⟩⟩
  · simp [notFound, eq_comm]
  · simp
  · simp [eq_comm]

theorem coherent (l : Locator) (text : Text) : l.Coherent text (l.regex.allMatches text) where
  all_ok _ := all_eq_ok_iff
  all_error _ := all_eq_error_iff
  first_ok _ := first_eq_ok_iff
  first_error _ := first_eq_error_iff
  leftmost _ found := Regex.noneBefore_of_first? (first?_of_first found)
  unique_ok _ _ := unique_eq_ok_iff
  unique_error _ _ := unique_eq_error_iff

end Locator

/-- The three ways of locating fragments agree, whatever term a locator holds and whatever text is
searched: they speak of one list of all matches. The classes in the term may hold any characters,
also those of a Unicode property, which no pattern that is read here names. Signatures are compiled
to such locators. -/
theorem Locator.locates_alike (l : Locator) (text : Text) :
    (∃ ms, l.regex.Lists text ms ∧ l.Coherent text ms ∧
      ∀ m ∈ ms, ∀ rule, m.HasGroups rule text) ∧
    ∀ (s : Signature) rule b, s.compile rule b = .ok l ↔
      l.rule = rule ∧ s.template.render b .escaped = .ok l.pattern ∧
        Regex.ofText { dotAll := s.multiline } l.pattern = .ok l.regex := by
  have lists := l.regex.lists_allMatches text
  refine ⟨⟨_, lists, l.coherent text, fun m member => ?_⟩, fun s rule b =>
    Signature.compile_eq_ok_iff⟩
  exact (lists.lieIn m member).hasGroups

/-- A bound text or a run of letters, which may be empty: behind the letters the empty run is passed
over, as the run before it ends there, and the one at the end of the text is a match. -/
theorem Locator.locates_alike_choice :
    ∃ l, Signature.compile
        ⟨⟨[.literal "(".toList, .parameter "name", .literal ")|([[:lower:]--x]*)".toList]⟩, false⟩
        "rule" ⟨[("name", "$".toList)], by simp⟩ = .ok l ∧
      (l.all "$yz€".toList).map (·.map fun m => (m.whole.start.offset, m.whole.stop.offset)) =
        .ok [(0, 1), (1, 3), (6, 6)] ∧
      ∃ ms, l.regex.Lists "$yz€".toList ms ∧ l.Coherent "$yz€".toList ms ∧
        ∀ m ∈ ms, ∀ rule, m.HasGroups rule "$yz€".toList := by
  have compiled : Signature.compile
      ⟨⟨[.literal "(".toList, .parameter "name", .literal ")|([[:lower:]--x]*)".toList]⟩, false⟩
      "rule" ⟨[("name", "$".toList)], by simp⟩ =
        .ok ⟨"rule", "(\\$)|([[:lower:]--x]*)".toList, .alt (.group 1 (.text ['$']))
          (.group 2 (.repeated (.char ⟨[(97, 119), (121, 122)]⟩) 0 none true))⟩ := by
    rfl
  refine ⟨_, compiled, ?_, (locates_alike _ _).1⟩
  rw [Locator.all, Regex.allMatches_eq_evaluate]
  decide +kernel

end HookGraft

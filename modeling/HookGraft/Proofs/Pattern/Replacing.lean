import HookGraft.Proofs.FirstEntry
import HookGraft.Proofs.Pattern.Locating

/-!
# Replacing span by span

Fragments are replaced from left to right, in one pass over the text. The same text comes about when
their spans are replaced one after the other from the last to the first: each byte offset lies before
everything that has been replaced, so that none of them has to be adjusted.

## Main definitions

* `replaceSpans?`: the spans of matches replaced one after the other, the last one first
* `Extent.IsExchangeable`: a part of a text that can be replaced by its offsets, and put back
* `Locator.HandsBack`: the fragments that one of the ways of locating hands back

## Main results

* `replaceMatches_spans`: one pass from the left and replacing from the last span on
* `replaceMatches_eq_error_iff`: a pass fails at the first match that cannot be rendered
* `Match.exchangeable`: matches and what their groups read can be exchanged
* `Locator.replaces_span_by_span`: replacing all fragments comes down to replacing spans
-/

namespace HookGraft

/-! ## One span -/

/-- The offsets around a part of a text are those of its span. -/
theorem replaceSpan?_append (before part after new : Text) :
    replaceSpan? (before ++ part ++ after) (Text.utf8Size before) (Text.utf8Size (before ++ part))
      new = some (before ++ new ++ after) := by
  have first : Text.seekByte? (Text.utf8Size before) (before ++ part ++ after) =
      some (before, part ++ after) :=
    Text.seekByte?_eq_some_iff.2 ⟨List.append_assoc .., rfl⟩
  have last : Text.seekByte? (Text.utf8Size (before ++ part)) (before ++ part ++ after) =
      some (before ++ part, after) :=
    Text.seekByte?_eq_some_iff.2 ⟨rfl, rfl⟩
  rw [replaceSpan?, first, last]
  rfl

/-- A part of a text that can be exchanged: any text can be put in the place of its span, and the old
text in the place of the new one again. -/
structure Extent.IsExchangeable (e : Extent) (text : Text) : Prop where
  replaced : ∀ new, replaceSpan? text e.start.offset e.stop.offset new = some (e.replace new)
  restored : ∀ new, replaceSpan? (e.replace new) e.start.offset
    (e.start.offset + Text.utf8Size new) e.text = some text

/-- What lies between two places of a text can be exchanged. -/
theorem Cursor.Passes.isExchangeable {text s t : Text} {e : Extent}
    (pass : (Cursor.start text).Passes s e.start) (inside : e.start.Passes t e.stop) :
    e.IsExchangeable text := by
  have part : e.text = t := inside.extent_text
  have before : e.start.before.reverse = s := by
    rw [pass.before]
    simp [Cursor.start]
  have whole : text = s ++ t ++ e.stop.after := before ▸ Extent.text_eq pass inside
  have first : e.start.offset = Text.utf8Size s := by
    rw [pass.offset]
    exact Nat.zero_add _
  have last : e.stop.offset = Text.utf8Size (s ++ t) := by
    rw [inside.offset, first, Text.utf8Size_append]
  constructor
  · intro new
    have exchanged := replaceSpan?_append s t e.stop.after new
    rw [← whole, ← first, ← last] at exchanged
    rw [exchanged, Extent.replace, before]
  · intro new
    have exchanged := replaceSpan?_append s new e.stop.after t
    rw [Text.utf8Size_append, ← first, ← whole] at exchanged
    rw [Extent.replace, before, part, exchanged]

/-! ## All spans -/

/-- A text with the spans of matches replaced one after the other, the last one first. -/
def replaceSpans? (new : Match → Text) (text : Text) (ms : List Match) : Option Text :=
  ms.foldrM (fun m t => replaceSpan? t m.whole.start.offset m.whole.stop.offset (new m)) text

section

variable {r : Regex} {p : Cursor} {ms : List Match} {render : Match → Except PatchError Text}

/-- One pass from the left leaves the same text as replacing the spans from the last one on. -/
theorem replaceMatches_spans {text before : Text} {new : Match → Text} (found : r.MatchesBehind p ms)
    (pass : (Cursor.start text).Passes before p) (rendered : ∀ m ∈ ms, render m = .ok (new m)) :
    ∃ behind, replaceMatches render p ms = .ok behind ∧
      replaceSpans? new text ms = some (before ++ behind) := by
  induction found generalizing before with
  | nil => exact ⟨_, rfl, congrArg some pass.after⟩
  | @cons p skipped m rest ahead isMatch others ih =>
    obtain ⟨here, later⟩ := List.forall_mem_cons.1 rendered
    obtain ⟨part, inside⟩ := isMatch.passes
    have passStart := pass.trans ahead
    obtain ⟨behind, done, spans⟩ := ih (passStart.trans inside) later
    refine ⟨skipped ++ new m ++ behind, ?_, ?_⟩
    · rw [replaceMatches, here, done, ahead.extent_text]
      rfl
    · have first : m.whole.start.offset = Text.utf8Size (before ++ skipped) := by
        rw [passStart.offset]
        exact Nat.zero_add _
      have last : m.whole.stop.offset = Text.utf8Size (before ++ skipped ++ part) := by
        rw [inside.offset, first, ← Text.utf8Size_append]
      have single := replaceSpan?_append (before ++ skipped) part behind (new m)
      rw [← first, ← last] at single
      rw [replaceSpans?, List.foldrM_cons, ← replaceSpans?, spans]
      show replaceSpan? _ _ _ _ = _
      rw [single]
      simp only [List.append_assoc]

/-- A pass from the left fails as rendering does for the first match that cannot be rendered. -/
theorem replaceMatches_eq_error_iff {e : PatchError} :
    replaceMatches render p ms = .error e ↔ FirstFailure render ms e := by
  induction ms generalizing p with
  | nil => exact ⟨nofun, fun first => absurd first not_firstFailure_nil⟩
  | cons m rest ih =>
    rw [firstFailure_cons_iff, replaceMatches, Except.bind_eq_error]
    constructor
    · rintro (failed | ⟨new, here, failed⟩)
      · exact .inl failed
      · rcases Except.bind_eq_error.1 failed with later | ⟨_, _, ⟨⟩⟩
        exact .inr ⟨⟨new, here⟩, ih.1 later⟩
    · rintro (failed | ⟨⟨new, here⟩, later⟩)
      · exact .inl failed
      · exact .inr ⟨new, here, Except.bind_eq_error.2 (.inl (ih.2 later))⟩

/-- Putting in the place of each match what stands there changes nothing. -/
theorem replaceMatches_self (found : r.MatchesBehind p ms)
    (same : ∀ m ∈ ms, render m = .ok m.whole.text) : replaceMatches render p ms = .ok p.after := by
  induction found with
  | nil => rfl
  | @cons p skipped m rest ahead isMatch others ih =>
    obtain ⟨here, later⟩ := List.forall_mem_cons.1 same
    obtain ⟨part, inside⟩ := isMatch.passes
    rw [replaceMatches, here, ih later, ahead.extent_text, inside.extent_text, ahead.after,
      inside.after, ← List.append_assoc]
    rfl

end

/-! ## Fragments -/

/-- The fragments that one of the ways of locating hands back. -/
def Locator.HandsBack (l : Locator) (text : Text) (m : Match) : Prop :=
  l.first text = .ok m ∨ (∃ found, l.all text = .ok found ∧ m ∈ found) ∨
    ∃ accept, l.unique text accept = .ok m

theorem Locator.mem_of_handsBack {l : Locator} {text : Text} {m : Match} (h : l.HandsBack text m) :
    m ∈ l.regex.allMatches text := by
  rcases h with first | ⟨found, all, member⟩ | ⟨accept, unique⟩
  · obtain ⟨rest, all⟩ := first_eq_ok_iff.1 first
    rw [← (all_eq_ok_iff.1 all).1]
    exact List.mem_cons_self
  · rwa [← (all_eq_ok_iff.1 all).1]
  · have only := unique_eq_ok_iff.1 unique
    exact (List.mem_filter.1 (only ▸ List.mem_singleton_self m)).1

/-- A match that is located can be exchanged, and so can what each group read that took part. -/
theorem Match.exchangeable {r : Regex} {text : Text} {m : Match} (member : m ∈ r.allMatches text) :
    m.whole.IsExchangeable text ∧ ∀ i e, m.group? i = some e → e.IsExchangeable text := by
  obtain ⟨isMatch, s, pass⟩ := Regex.allMatches_sound.of_mem member
  obtain ⟨t, inside⟩ := isMatch.passes
  refine ⟨pass.isExchangeable inside, fun i e found => ?_⟩
  obtain ⟨before, within, after, ahead, here, -⟩ := isMatch.group_inside found
  exact (pass.trans ahead).isExchangeable here

/-- Replacing all fragments comes down to replacing spans. If all fragments are rendered, the text is
the one that comes about when their spans are replaced from the last to the first, and they are
counted; a text without fragments stays as it is, and so does one whose fragments are rendered as
themselves. If some are not rendered, the failure is that of the first of them. The span of a fragment,
and of what a group of it read, can always be replaced, and the old text put back. -/
theorem Locator.replaces_span_by_span (l : Locator) (text : Text) :
    (∀ render new, (∀ m ∈ l.regex.allMatches text, render m = .ok (new m)) →
      ∃ out, replaceSpans? new text (l.regex.allMatches text) = some out ∧
        l.replaceAll text render = .ok (out, (l.regex.allMatches text).length)) ∧
    (∀ render, l.regex.allMatches text = [] → l.replaceAll text render = .ok (text, 0)) ∧
    (∀ render, (∀ m ∈ l.regex.allMatches text, render m = .ok m.whole.text) →
      l.replaceAll text render = .ok (text, (l.regex.allMatches text).length)) ∧
    (∀ render, (∃ m ∈ l.regex.allMatches text, ∃ e, render m = .error e) →
      ∃ e, FirstFailure render (l.regex.allMatches text) e ∧
        l.replaceAll text render = .error e) ∧
    ∀ m, l.HandsBack text m → m.whole.IsExchangeable text ∧
      ∀ i e, m.group? i = some e → e.IsExchangeable text := by
  refine ⟨fun render new rendered => ?_, fun render none => ?_, fun render same => ?_,
    ?_, fun m found => Match.exchangeable (mem_of_handsBack found)⟩
  · obtain ⟨out, done, spans⟩ :=
      replaceMatches_spans Regex.allMatches_sound (.refl (Cursor.start text)) rendered
    exact ⟨out, spans, replaceAll_eq_ok.2 ⟨done, rfl⟩⟩
  · refine replaceAll_eq_ok.2 ⟨?_, by rw [none, List.length_nil]⟩
    rw [none]
    rfl
  · exact replaceAll_eq_ok.2 ⟨replaceMatches_self Regex.allMatches_sound same, rfl⟩
  · rintro render ⟨m, member, failed⟩
    obtain ⟨e, first⟩ := exists_firstFailure member failed
    exact ⟨e, first, Except.bind_eq_error.2 (.inl (replaceMatches_eq_error_iff.2 first))⟩

/-- The locator for runs of one letter, which may be empty. -/
def Locator.runs : Locator where
  rule := "rule"
  pattern := "(b*)".toList
  regex := .group 1 (.repeated (.text ['b']) 0 none true)

/-- What a match read, in brackets. -/
def Match.bracketed (m : Match) : Text := '<' :: (m.whole.text ++ ['>'])

/-- Refuses matches that read something. -/
def Match.onlyEmpty (m : Match) : Except PatchError Text :=
  if m.whole.isEmpty then .ok [] else .error Locator.runs.notFound

/-- Runs in a text with a character of three bytes: an empty one at the start, one of two letters, and
an empty one at the end. -/
theorem Locator.replaces_span_by_span_of_runs :
    let text := "xbb€".toList
    Regex.ofText {} runs.pattern = .ok runs.regex ∧
      replaceSpans? Match.bracketed text (runs.regex.allMatches text) = some "<>x<bb>€<>".toList ∧
      runs.replaceAll text (fun m => .ok m.bracketed) = .ok ("<>x<bb>€<>".toList, 3) ∧
      runs.replaceAll text (fun m => .ok m.whole.text) = .ok (text, 3) ∧
      runs.replaceAll text Match.onlyEmpty = .error runs.notFound ∧
      FirstFailure Match.onlyEmpty (runs.regex.allMatches text) runs.notFound ∧
      Locator.replaceAll ⟨"rule", ['c'], .text ['c']⟩ text (fun m => .ok m.bracketed) =
        .ok (text, 0) ∧
      ∃ m e, runs.first text = .ok m ∧ m.group? 1 = some e ∧
        m.whole.IsExchangeable text ∧ e.IsExchangeable text := by
  intro text
  obtain ⟨spans, -, same, fails, exchange⟩ := replaces_span_by_span runs text
  have three : (runs.regex.allMatches text).length = 3 := by
    rw [Regex.allMatches_eq_evaluate]
    decide +kernel
  obtain ⟨out, replaced, done⟩ := spans (fun m => .ok m.bracketed) Match.bracketed fun _ _ => rfl
  have computed : runs.replaceAll text (fun m => .ok m.bracketed) =
      .ok ("<>x<bb>€<>".toList, 3) := by
    rw [replaceAll, Regex.allMatches_eq_evaluate]
    decide +kernel
  obtain ⟨rfl, -⟩ := Prod.mk.inj (Except.ok.inj (done.symm.trans computed))
  have unchanged := same (fun m => .ok m.whole.text) fun _ _ => rfl
  rw [three] at unchanged
  have some : ∃ m ∈ runs.regex.allMatches text, Match.onlyEmpty m = .error runs.notFound := by
    rw [Regex.allMatches_eq_evaluate]
    decide +kernel
  obtain ⟨m, member, refused⟩ := some
  obtain ⟨e, earliest, failed⟩ := fails Match.onlyEmpty ⟨m, member, _, refused⟩
  obtain rfl : e = runs.notFound := by
    obtain ⟨m', -, refused⟩ := earliest
    simp only [Match.onlyEmpty] at refused
    split at refused
    · contradiction
    · exact (Except.error.inj refused).symm
  obtain ⟨-, none, -⟩ := replaces_span_by_span ⟨"rule", ['c'], .text ['c']⟩ text
  have absent : (Regex.text ['c']).allMatches text = [] := by
    rw [Regex.allMatches_eq_evaluate]
    decide +kernel
  have grouped : ((runs.first text).toOption.bind (·.group? 1)).isSome = true := by
    rw [first, Regex.first?_eq_evaluate]
    decide +kernel
  refine ⟨rfl, replaced, computed, unchanged, failed, earliest, none _ absent, ?_⟩
  cases found : runs.first text with
  | error e => rw [found] at grouped; contradiction
  | ok m =>
    rw [found] at grouped
    obtain ⟨e, group⟩ := Option.isSome_iff_exists.1 grouped
    obtain ⟨whole, groups⟩ := exchange m (.inl found)
    exact ⟨m, e, rfl, group, whole, groups 1 e group⟩

end HookGraft

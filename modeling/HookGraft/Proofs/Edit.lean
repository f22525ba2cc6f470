import HookGraft.Proofs.Fallible
import HookGraft.Proofs.Regex.Search

/-!
# What edits leave

Replacing an extent leaves everything outside it. If what is put in holds what was there, in the
same order, nothing of the text is lost at all.

## Main results

* `Extent.sublist_replace`: nothing is lost when an extent is replaced by something that holds it
* `replaceMatches_sublist`: the same for all matches of a term
* `Locator.first_sound`, `Locator.unique_sound`: what is located is a match
-/

namespace HookGraft

/-! ## One extent -/

namespace Extent

variable {e : Extent} {text part new : Text} {skipped : Text}

/-- The text around an extent. -/
theorem text_eq (before : (Cursor.start text).Passes skipped e.start)
    (inside : e.start.Passes part e.stop) :
    text = e.start.before.reverse ++ part ++ e.stop.after := by
  rw [← inside.whole, before.around]
  rfl

/-- Nothing is lost when an extent is replaced by something that holds it. -/
theorem sublist_replace (before : (Cursor.start text).Passes skipped e.start)
    (inside : e.start.Passes part e.stop) (kept : part.Sublist new) :
    text.Sublist (e.replace new) := by
  rw [text_eq before inside, replace]
  exact ((List.Sublist.refl _).append kept).append (List.Sublist.refl _)

end Extent

/-! ## All matches of a term -/

variable {r : Regex} {p : Cursor} {ms : List Match} {render : Match → Except PatchError Text}

/-- Nothing is lost when every match is replaced by something that holds it. -/
theorem replaceMatches_sublist (found : r.MatchesBehind p ms)
    (kept : ∀ m ∈ ms, r.Matches m → ∀ new, render m = .ok new → m.whole.text.Sublist new)
    {out : Text} (h : replaceMatches render p ms = .ok out) : p.after.Sublist out := by
  induction found generalizing out with
  | nil =>
    obtain rfl := Except.ok.inj h
    exact List.Sublist.refl _
  | @cons p skipped m rest pass isMatch others ih =>
    obtain ⟨new, here, h⟩ := Except.bind_eq_ok.1 h
    obtain ⟨tail, behind, done⟩ := Except.bind_eq_ok.1 h
    obtain rfl := Except.ok.inj done
    obtain ⟨part, inside⟩ := isMatch.passes
    have first := kept m List.mem_cons_self isMatch new here
    have last := ih (fun m member => kept m (List.mem_cons_of_mem _ member)) behind
    rw [inside.extent_text] at first
    rw [pass.extent_text, pass.after, inside.after, ← List.append_assoc]
    exact ((List.Sublist.refl skipped).append first).append last

/-- Replacing matches fails only if one of them cannot be rendered. -/
theorem replaceMatches_error {e : PatchError} (h : replaceMatches render p ms = .error e) :
    ∃ m ∈ ms, render m = .error e := by
  induction ms generalizing p with
  | nil => contradiction
  | cons m rest ih =>
    rcases Except.bind_eq_error.1 h with here | ⟨new, -, h⟩
    · exact ⟨m, List.mem_cons_self, here⟩
    · rcases Except.bind_eq_error.1 h with later | ⟨_, _, ⟨⟩⟩
      obtain ⟨m', member, failed⟩ := ih later
      exact ⟨m', List.mem_cons_of_mem m member, failed⟩

/-- When matches are replaced, each of them has been rendered. -/
theorem rendered_of_replaceMatches {out : Text} (h : replaceMatches render p ms = .ok out) {m : Match}
    (member : m ∈ ms) : ∃ new, render m = .ok new := by
  induction ms generalizing p out with
  | nil => contradiction
  | cons first rest ih =>
    obtain ⟨new, here, h⟩ := Except.bind_eq_ok.1 h
    obtain ⟨behind, later, -⟩ := Except.bind_eq_ok.1 h
    rcases List.mem_cons.1 member with rfl | other
    · exact ⟨new, here⟩
    · exact ih later other

/-- What replaces the matches counts, and not how it is computed. -/
theorem replaceMatches_congr {render' : Match → Except PatchError Text}
    (same : ∀ m ∈ ms, render m = render' m) :
    replaceMatches render p ms = replaceMatches render' p ms := by
  induction ms generalizing p with
  | nil => rfl
  | cons m rest ih =>
    rw [replaceMatches, replaceMatches, same m List.mem_cons_self,
      ih fun m' later => same m' (List.mem_cons_of_mem m later)]

namespace Locator

variable {l : Locator} {text : Text}

theorem replaceAll_eq_ok {out : Text} {sites : Nat} :
    l.replaceAll text render = .ok (out, sites) ↔
      replaceMatches render (Cursor.start text) (l.regex.allMatches text) = .ok out ∧
        sites = (l.regex.allMatches text).length := by
  rw [replaceAll, Except.bind_eq_ok]
  constructor
  · rintro ⟨new, replaced, ⟨⟩⟩
    exact ⟨replaced, rfl⟩
  · rintro ⟨replaced, rfl⟩
    exact ⟨out, replaced, rfl⟩

/-- Nothing is lost when every fragment is replaced by something that holds it. -/
theorem replaceAll_sublist
    (kept : ∀ m, l.regex.Matches m → ∀ new, render m = .ok new → m.whole.text.Sublist new)
    {out : Text} {sites : Nat} (h : l.replaceAll text render = .ok (out, sites)) :
    text.Sublist out :=
  replaceMatches_sublist Regex.allMatches_sound (fun m _ => kept m) (replaceAll_eq_ok.1 h).1

/-- Replacing fragments fails only if one of them cannot be rendered. -/
theorem replaceAll_error {e : PatchError} (h : l.replaceAll text render = .error e) :
    ∃ m, l.regex.Matches m ∧ render m = .error e := by
  rcases Except.bind_eq_error.1 h with failed | ⟨_, _, ⟨⟩⟩
  obtain ⟨m, member, failed⟩ := replaceMatches_error failed
  exact ⟨m, (Regex.allMatches_sound.of_mem member).1, failed⟩

theorem first?_of_first {m : Match} (h : l.first text = .ok m) : l.regex.first? text = some m := by
  simp only [first] at h
  split at h
  · rename_i found search
    rw [search, Except.ok.inj h]
  · contradiction

/-- The first fragment is a match, some way behind the start of the text. -/
theorem first_sound {m : Match} (h : l.first text = .ok m) :
    l.regex.Matches m ∧ ∃ t, (Cursor.start text).Passes t m.whole.start :=
  Regex.first?_sound (first?_of_first h)

/-- There may be no fragment. -/
theorem first_error {e : PatchError} (h : l.first text = .error e) : e = l.notFound := by
  simp only [first] at h
  split at h
  · contradiction
  · exact (Except.error.inj h).symm

/-- The only fragment that is accepted is a match, some way behind the start of the text. -/
theorem unique_sound {accept : Match → Bool} {m : Match} (h : l.unique text accept = .ok m) :
    l.regex.Matches m ∧ ∃ t, (Cursor.start text).Passes t m.whole.start := by
  simp only [unique] at h
  split at h
  · contradiction
  · rename_i found only
    obtain rfl := Except.ok.inj h
    have member : found ∈ (l.regex.allMatches text).filter accept := by
      rw [only]
      exact List.mem_singleton_self found
    exact Regex.allMatches_sound.of_mem (List.mem_filter.1 member).1
  · contradiction

/-- There may be no fragment that is accepted, or more than one. -/
theorem unique_error {accept : Match → Bool} {e : PatchError}
    (h : l.unique text accept = .error e) :
    e = l.notFound ∨ ∃ actual, e = .unexpectedShape l.rule "candidate fragments" 1 actual := by
  simp only [unique] at h
  split at h
  · exact .inl (Except.error.inj h).symm
  · contradiction
  · exact .inr ⟨_, (Except.error.inj h).symm⟩

end Locator

namespace Match

variable {m : Match} {index : Nat} {extent : Extent}

/-- The extent of a group that took part in a match is found, -/
theorem captureSpan_eq_ok (rule : String) (h : m.group? index = some extent) :
    m.captureSpan rule index = .ok extent := by
  cases index with
  | zero => contradiction
  | succ index =>
    rw [group?, Option.join_eq_some_iff] at h
    rw [captureSpan, h]

/-- and so is the text that it has read. -/
theorem capture_eq_ok (rule : String) (h : m.group? index = some extent) :
    m.capture rule index = .ok extent.text := by
  cases index with
  | zero => contradiction
  | succ index =>
    rw [group?, Option.join_eq_some_iff] at h
    rw [capture, captures, List.getElem?_map, h]
    rfl

/-- Neither is found of a group that took no part. -/
theorem captureSpan_eq_error (rule : String) (h : m.group? index = none) :
    m.captureSpan rule index = .error (.malformedFragment rule (.groupAbsent index)) := by
  cases index with
  | zero => rfl
  | succ index =>
    rw [group?] at h
    rw [captureSpan]
    rcases found : m.groups[index]? with _ | _ | extent
    · rfl
    · rfl
    · simp [found] at h

theorem capture_eq_error (rule : String) (h : m.group? index = none) :
    m.capture rule index = .error (.malformedFragment rule (.groupAbsent index)) := by
  cases index with
  | zero => rfl
  | succ index =>
    rw [group?] at h
    rw [capture, captures, List.getElem?_map]
    rcases found : m.groups[index]? with _ | _ | extent
    · rfl
    · rfl
    · simp [found] at h

/-- A failure to find what a group has read is that the fragment is malformed. -/
theorem captureSpan_error {rule : String} {e : PatchError}
    (failed : m.captureSpan rule index = .error e) :
    e = .malformedFragment rule (.groupAbsent index) := by
  cases found : m.group? index with
  | some extent => exact nomatch (captureSpan_eq_ok rule found).symm.trans failed
  | none => exact Except.error.inj (failed.symm.trans (captureSpan_eq_error rule found))

theorem capture_error {rule : String} {e : PatchError}
    (failed : m.capture rule index = .error e) :
    e = .malformedFragment rule (.groupAbsent index) := by
  cases found : m.group? index with
  | some extent => exact nomatch (capture_eq_ok rule found).symm.trans failed
  | none => exact Except.error.inj (failed.symm.trans (capture_eq_error rule found))

end Match

end HookGraft

import HookGraft.Proofs.Pattern.InPlace
import HookGraft.Proofs.Edit

/-!
# Plain scanners

A scanner reads the texts of a shape without any pattern: it tells whether a text begins with such a
text, and from this the first fragment is found by going through the text from left to right. What
a pattern locates, and what is inserted behind all fragments, can be computed by a scanner alone.

## Main definitions

* `Scanner`: reads a text of a shape at the beginning of a text
* `Scanner.cutFirst?`: the text around the first fragment
* `Scanner.insertAfter`: a text inserted behind every fragment

## Main results

* `Scanner.cutFirst?_eq_some_iff`, `Scanner.cutFirst?_eq_none_iff`: the first fragment
* `Locator.Locates.first_of_some`: a locator finds the first fragment
* `Fragments.forall_iff`: when all fragments are of some kind
* `Locator.Locates.replaceAll_eq`: what is inserted behind all fragments that a locator finds
-/

namespace HookGraft

/-- Reads a fragment of a shape at the beginning of a text. There is one way to read it at most, and
it is not empty. -/
structure Scanner (shape : Text → Prop) where
  /-- the fragment and what follows it -/
  read? : Text → Option (Text × Text)
  read?_eq_some_iff {text fragment after : Text} :
    read? text = some (fragment, after) ↔ shape fragment ∧ text = fragment ++ after
  ne_nil {fragment : Text} : shape fragment → fragment ≠ []

namespace Scanner

variable {shape : Text → Prop} (s : Scanner shape) {text before fragment after code : Text}

include s in
/-- There is one fragment at most at the beginning of a text. -/
theorem unique {t a : Text} (proper : shape fragment) (proper' : shape t)
    (same : fragment ++ after = t ++ a) : fragment = t := by
  have one : s.read? (fragment ++ after) = some (fragment, after) :=
    s.read?_eq_some_iff.2 ⟨proper, rfl⟩
  have other := one.symm.trans (s.read?_eq_some_iff.2 ⟨proper', same⟩)
  exact (Prod.mk.inj (Option.some.inj other)).1

/-- The text before the first fragment, the fragment, and the text behind it. -/
def cutFirst? : Text → Option (Text × Text × Text)
  | [] => none
  | c :: rest =>
    match s.read? (c :: rest) with
    | some (fragment, after) => some ([], fragment, after)
    | none => (cutFirst? rest).map fun (before, found) => (c :: before, found)

/-- The first fragment has the least text before it. -/
theorem cutFirst?_eq_some_iff :
    s.cutFirst? text = some (before, fragment, after) ↔
      text = before ++ fragment ++ after ∧ shape fragment ∧
        ∀ b t a, text = b ++ t ++ a → shape t → before.length ≤ b.length := by
  induction text generalizing before with
  | nil =>
    simp only [cutFirst?, reduceCtorEq, false_iff, not_and]
    intro empty proper
    simp [s.ne_nil proper] at empty
  | cons c rest ih =>
    simp only [cutFirst?]
    cases here : s.read? (c :: rest) with
    | some found =>
      obtain ⟨fragment', after'⟩ := found
      obtain ⟨proper', start⟩ := s.read?_eq_some_iff.1 here
      simp only [Option.some.injEq, Prod.mk.injEq]
      constructor
      · rintro ⟨rfl, rfl, rfl⟩
        exact ⟨start, proper', by simp⟩
      · rintro ⟨whole, proper, least⟩
        obtain rfl : before = [] :=
          List.length_eq_zero_iff.1 (Nat.le_zero.1 (least [] fragment' after' start proper'))
        rw [s.read?_eq_some_iff.2 ⟨proper, whole⟩] at here
        obtain ⟨rfl, rfl⟩ := Prod.mk.inj (Option.some.inj here)
        exact ⟨rfl, rfl, rfl⟩
    | none =>
      have later : ∀ {b t a}, c :: rest = b ++ t ++ a → shape t → ∃ b', b = c :: b' := by
        intro b t a whole proper
        cases b with
        | nil =>
          rw [s.read?_eq_some_iff.2 ⟨proper, whole⟩] at here
          contradiction
        | cons d b => exact ⟨b, by rw [(List.cons.inj whole).1]⟩
      simp only [Option.map_eq_some_iff, Prod.exists, Prod.mk.injEq]
      constructor
      · rintro ⟨b, _, _, found, rfl, rfl, rfl⟩
        obtain ⟨rfl, proper, least⟩ := ih.1 found
        refine ⟨rfl, proper, fun b' t a whole proper' => ?_⟩
        obtain ⟨b', rfl⟩ := later whole proper'
        exact Nat.succ_le_succ (least b' t a (List.cons.inj whole).2 proper')
      · rintro ⟨whole, proper, least⟩
        obtain ⟨b, rfl⟩ := later whole proper
        refine ⟨b, _, _, ih.2 ⟨(List.cons.inj whole).2, proper, fun b' t a whole' proper' => ?_⟩,
          rfl, rfl, rfl⟩
        exact Nat.le_of_succ_le_succ (least (c :: b') t a (congrArg (c :: ·) whole') proper')

theorem cutFirst?_eq_none_iff : s.cutFirst? text = none ↔ ∀ t, shape t → ¬ t <:+: text := by
  induction text with
  | nil =>
    simp only [cutFirst?, true_iff, List.infix_nil]
    exact fun t => s.ne_nil
  | cons c rest ih =>
    simp only [cutFirst?]
    cases here : s.read? (c :: rest) with
    | some found =>
      obtain ⟨proper, start⟩ := s.read?_eq_some_iff.1 here
      simp only [reduceCtorEq, false_iff, not_forall, not_not]
      exact ⟨found.1, proper, start ▸ (List.prefix_append _ _).isInfix⟩
    | none =>
      rw [Option.map_eq_none_iff, ih]
      refine forall_congr' fun t => imp_congr_right fun proper => not_congr ?_
      rw [List.infix_cons_iff]
      refine ⟨.inr, Or.rec (fun ⟨behind, start⟩ => ?_) id⟩
      rw [s.read?_eq_some_iff.2 ⟨proper, start.symm⟩] at here
      contradiction

/-- Less text is left behind a fragment. -/
theorem length_lt_of_cutFirst? (found : s.cutFirst? text = some (before, fragment, after)) :
    after.length < text.length := by
  obtain ⟨rfl, proper, -⟩ := s.cutFirst?_eq_some_iff.1 found
  have := List.length_pos_iff.2 (s.ne_nil proper)
  simp only [List.length_append]
  omega

/-- Inserts a text behind every fragment, and counts the fragments. The next one is searched for
behind the one before it. -/
def insertAfter (code text : Text) : Text × Nat :=
  match _ : s.cutFirst? text with
  | none => (text, 0)
  | some (before, fragment, after) =>
    let (out, sites) := insertAfter code after
    (before ++ fragment ++ code ++ out, sites + 1)
  termination_by text.length
  decreasing_by exact s.length_lt_of_cutFirst? ‹_›

theorem insertAfter_of_none (none : s.cutFirst? text = none) :
    s.insertAfter code text = (text, 0) := by
  rw [insertAfter]
  split
  · rfl
  · rename_i found
    rw [none] at found
    contradiction

theorem insertAfter_of_some (found : s.cutFirst? text = some (before, fragment, after)) :
    s.insertAfter code text = (before ++ fragment ++ code ++ (s.insertAfter code after).1,
      (s.insertAfter code after).2 + 1) := by
  rw [insertAfter]
  split
  · rename_i none
    rw [found] at none
    contradiction
  · rename_i found'
    rw [found] at found'
    obtain ⟨rfl, rfl, rfl⟩ : _ = _ ∧ _ = _ ∧ _ = _ := by simpa using found'
    rfl

end Scanner

variable {shape : Text → Prop} (s : Scanner shape)

/-- A scanner finds the leftmost match. -/
theorem Match.IsLeftmost.cutFirst? {m : Match} {p : Cursor} (h : m.IsLeftmost shape p) :
    s.cutFirst? p.after =
      some (Extent.text ⟨p, m.whole.start⟩, m.whole.text, m.whole.stop.after) := by
  obtain ⟨before, pass, least⟩ := h.leftmost
  refine s.cutFirst?_eq_some_iff.2 ⟨?_, h.fragment, ?_⟩
  · rw [pass.extent_text, pass.after, h.inside.after, List.append_assoc]
  · rwa [pass.extent_text]

/-- The first of some fragments is the one that a scanner finds, and the others lie behind it. -/
theorem Fragments.of_cutFirst? {p : Cursor} {ms : List Match} {before fragment after : Text}
    (h : Fragments shape p ms) (found : s.cutFirst? p.after = some (before, fragment, after)) :
    ∃ m rest, ms = m :: rest ∧ p.Passes before m.whole.start ∧ m.whole.text = fragment ∧
      m.whole.stop.after = after ∧ Fragments shape m.whole.stop rest := by
  cases h with
  | nil absent =>
    rw [s.cutFirst?_eq_none_iff.2 absent] at found
    contradiction
  | @cons p m rest first others =>
    obtain ⟨skipped, pass, -⟩ := first.leftmost
    rw [first.cutFirst? s, pass.extent_text] at found
    simp only [Option.some.injEq, Prod.mk.injEq] at found
    obtain ⟨rfl, same, behind⟩ := found
    exact ⟨m, rest, rfl, pass, same, behind, others⟩

/-- A text is inserted behind all fragments by a scanner alone. -/
theorem Fragments.insertAfter {p : Cursor} {ms : List Match} {code : Text}
    {render : Match → Except PatchError Text} (h : Fragments shape p ms)
    (rendered : ∀ m ∈ ms, render m = .ok (m.whole.text ++ code)) :
    replaceMatches render p ms = .ok (s.insertAfter code p.after).1 ∧
      ms.length = (s.insertAfter code p.after).2 := by
  induction h with
  | nil absent =>
    rw [s.insertAfter_of_none (s.cutFirst?_eq_none_iff.2 absent)]
    exact ⟨rfl, rfl⟩
  | @cons p m rest first _ ih =>
    obtain ⟨behind, sites⟩ := ih fun m' later => rendered m' (List.mem_cons_of_mem m later)
    rw [s.insertAfter_of_some (first.cutFirst? s)]
    refine ⟨?_, congrArg (· + 1) sites⟩
    simp only [replaceMatches, rendered m List.mem_cons_self, behind, bind, Except.bind, pure,
      Except.pure, List.append_assoc]

include s in
/-- What can be scanned at one place is one text. So the fragments of a text are all of some kind just
if every text of the shape that is not begins inside a fragment. -/
theorem Fragments.forall_iff {text : Text} {ms : List Match} {Kind : Text → Text → Prop}
    (h : Fragments shape (Cursor.start text) ms) :
    (∀ m ∈ ms, Kind m.whole.start.before.reverse m.whole.text) ↔
      ∀ before t after, text = before ++ t ++ after → shape t → ¬ Kind before t →
        ∃ m ∈ ms, m.whole.start.before.length < before.length ∧
          before.length < m.whole.stop.before.length := by
  constructor
  · intro all before t after whole proper other
    obtain ⟨m, member, le, lt⟩ := h.covers whole proper
    simp only [Cursor.start, List.length_nil, Nat.zero_add] at le lt
    refine ⟨m, member, Nat.lt_of_le_of_ne le fun same => other ?_, lt⟩
    have around := (h.around member).2
    rw [Cursor.start, List.reverse_nil, List.nil_append, whole, List.append_assoc,
      List.append_assoc] at around
    obtain ⟨rfl, behind⟩ := List.append_inj around (by rw [List.length_reverse, same])
    obtain rfl := s.unique (h.of_mem member) proper behind
    exact all m member
  · intro inside m member
    by_contra other
    have around := (h.around member).2
    rw [Cursor.start, List.reverse_nil, List.nil_append] at around
    obtain ⟨m', member', before, within⟩ := inside _ _ _ around.symm (h.of_mem member) other
    rw [List.length_reverse] at before within
    exact absurd (h.not_inside member' member before) (Nat.not_le.2 within)

namespace Locator.Locates

variable {l : Locator} {text : Text}

/-- A locator finds the fragment that a scanner finds first. -/
theorem first_of_some (h : l.Locates shape) {before fragment after : Text}
    (found : s.cutFirst? text = some (before, fragment, after)) :
    ∃ m, l.first text = .ok m ∧ m.whole.text = fragment := by
  cases search : l.first text with
  | ok m =>
    have same := ((h.first text m search).cutFirst? s).symm.trans found
    exact ⟨m, rfl, (Prod.mk.inj (Prod.mk.inj (Option.some.inj same)).2).1⟩
  | error e =>
    have none := s.cutFirst?_eq_none_iff.2 ((h.first_fails text).1 ⟨e, search⟩)
    rw [none] at found
    contradiction

theorem first_of_none (h : l.Locates shape) (none : s.cutFirst? text = none) :
    l.first text = .error l.notFound := by
  obtain ⟨e, search⟩ := (h.first_fails text).2 (s.cutFirst?_eq_none_iff.1 none)
  rw [search, first_error search]

/-- What is inserted behind all fragments. -/
theorem replaceAll_eq (h : l.Locates shape) {code : Text} {render : Match → Except PatchError Text}
    (rendered : ∀ m, l.regex.Matches m → render m = .ok (m.whole.text ++ code)) :
    l.replaceAll text render = .ok (s.insertAfter code text) := by
  obtain ⟨out, sites⟩ := (h.all text).insertAfter s fun m member =>
    rendered m (Regex.allMatches_sound.of_mem member).1
  rw [replaceAll, out, sites]
  rfl

end Locator.Locates

end HookGraft

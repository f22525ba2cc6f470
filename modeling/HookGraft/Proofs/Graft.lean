import HookGraft.Proofs.Code
import HookGraft.Proofs.Edit

/-!
# Code put into a text

An edit keeps some pieces of a text, drops others, and puts codes between them. All that is not code
in what it leaves was in the text before.

## Main definitions

* `Grafted`: a text with codes put into it, in order

## Main results

* `Extent.grafted_replace`, `Extent.grafted_behind`: codes in the place of an extent, or behind it
* `Locator.exists_grafted`: every fragment replaced by a code
-/

namespace HookGraft

/-- A text, some pieces of which are kept, some are dropped, and codes are put between them. -/
inductive Grafted : List Code → Text → Text → Prop where
  | done : Grafted [] [] []
  | keep (kept : Text) {codes : List Code} {text out : Text} :
      Grafted codes text out → Grafted codes (kept ++ text) (kept ++ out)
  | drop (dropped : Text) {codes : List Code} {text out : Text} :
      Grafted codes text out → Grafted codes (dropped ++ text) out
  | insert (code : Code) {codes : List Code} {text out : Text} :
      Grafted codes text out → Grafted (code :: codes) text (code.text ++ out)

namespace Grafted

variable {codes more : List Code} {text out : Text}

theorem refl (text : Text) : Grafted [] text text := by
  have kept := Grafted.done.keep text
  rwa [List.append_nil] at kept

/-- Several codes one behind the other. -/
theorem insertAll (more : List Code) (h : Grafted codes text out) :
    Grafted (more ++ codes) text ((more.map Code.text).flatten ++ out) := by
  induction more with
  | nil => exact h
  | cons code others ih =>
    rw [List.map_cons, List.flatten_cons, List.append_assoc]
    exact ih.insert code

/-- A code occurs in the text that it has been put into. -/
theorem infix_of_mem (h : Grafted codes text out) {code : Code} (member : code ∈ codes) :
    code.text <:+: out := by
  induction h with
  | done => contradiction
  | keep kept _ ih => exact (ih member).trans (List.suffix_append kept _).isInfix
  | drop _ _ ih => exact ih member
  | insert other _ ih =>
    rcases List.mem_cons.1 member with rfl | later
    · exact (List.prefix_append _ _).isInfix
    · exact (ih later).trans (List.suffix_append _ _).isInfix

end Grafted

/-! ## Edits -/

/-- Codes are put in the place of an extent. -/
theorem Extent.grafted_replace {e : Extent} {text part skipped : Text}
    (before : (Cursor.start text).Passes skipped e.start) (inside : e.start.Passes part e.stop)
    (codes : List Code) : Grafted codes text (e.replace (codes.map Code.text).flatten) := by
  have placed := ((Grafted.refl e.stop.after).insertAll codes).drop part
  have whole := placed.keep e.start.before.reverse
  rwa [List.append_nil, ← List.append_assoc, ← List.append_assoc, ← text_eq before inside] at whole

/-- Codes are put behind an extent. -/
theorem Extent.grafted_behind {e : Extent} {text part skipped : Text}
    (before : (Cursor.start text).Passes skipped e.start) (inside : e.start.Passes part e.stop)
    (codes : List Code) :
    Grafted codes text (e.replace (part ++ (codes.map Code.text).flatten)) := by
  have placed := (Grafted.refl e.stop.after).insertAll codes
  have whole := (placed.keep part).keep e.start.before.reverse
  rwa [List.append_nil, ← List.append_assoc, ← text_eq before inside, ← List.append_assoc part,
    ← List.append_assoc] at whole

section Matches

variable {r : Regex} {p : Cursor} {ms : List Match} {render : Match → Except PatchError Text}
  {property : Code → Prop} {out : Text}

/-- Every match is replaced by a code. -/
theorem exists_grafted_of_replaceMatches (found : r.MatchesBehind p ms)
    (codeOf : ∀ m new, render m = .ok new → ∃ code : Code, code.text = new ∧ property code)
    (h : replaceMatches render p ms = .ok out) :
    ∃ codes, Grafted codes p.after out ∧ codes.length = ms.length ∧
      ∀ code ∈ codes, property code := by
  induction found generalizing out with
  | nil =>
    obtain rfl := Except.ok.inj h
    exact ⟨[], .refl _, rfl, fun code never => absurd never List.not_mem_nil⟩
  | @cons p skipped m rest pass isMatch others ih =>
    simp only [replaceMatches, Except.bind_eq_ok] at h
    obtain ⟨new, here, tail, behind, made⟩ := h
    obtain rfl := Except.ok.inj made
    obtain ⟨code, rfl, holds⟩ := codeOf m new here
    obtain ⟨codes, grafted, length, all⟩ := ih behind
    obtain ⟨part, inside⟩ := isMatch.passes
    have placed := ((grafted.drop part).insert code).keep skipped
    rw [← inside.after, ← pass.after, ← pass.extent_text, ← List.append_assoc] at placed
    exact ⟨code :: codes, placed, congrArg Nat.succ length,
      List.forall_mem_cons.2 ⟨holds, all⟩⟩

/-- Every fragment is replaced by a code. -/
theorem Locator.exists_grafted {l : Locator} {text : Text} {sites : Nat}
    (property : Code → Prop)
    (codeOf : ∀ m new, render m = .ok new → ∃ code : Code, code.text = new ∧ property code)
    (h : l.replaceAll text render = .ok (out, sites)) :
    ∃ codes, Grafted codes text out ∧ codes.length = sites ∧ ∀ code ∈ codes, property code := by
  simp only [replaceAll, Except.bind_eq_ok] at h
  obtain ⟨new, replaced, made⟩ := h
  obtain ⟨rfl, rfl⟩ := Prod.mk.inj (Except.ok.inj made)
  exact exists_grafted_of_replaceMatches Regex.allMatches_sound codeOf replaced

end Matches

end HookGraft

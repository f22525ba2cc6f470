import HookGraft.Escape
import HookGraft.Regex.Reader

/-!
# Texts that stand for themselves

Whatever a text is, its escaped form is read as the characters of that text, and a pattern in which
it stands is read as if these characters had been written in it.

## Main definitions

* `PatternState.withText`: what has been read of a pattern, with a text behind it

## Main results

* `PatternState.readAll?_escape`: reading an escaped text
* `Regex.sequence_literals`: the characters of a text are one term
* `Regex.parse?_eq_some`: when a pattern that has been read stands for a term
* `Regex.parse?_escape`: an escaped text stands for the text
-/

namespace HookGraft

/-- A character that stands for itself. -/
def Piece.literal (c : Char) : Piece := ⟨.text [c], 0⟩

/-- The characters of a text, each of which stands for itself. -/
def Piece.literals (t : Text) : List Piece := t.map Piece.literal

theorem Piece.char_one (c : Char) : Piece.char (.one c) = Piece.literal c := by
  simp [Piece.char, Piece.literal, CharClass.one, CharClass.range, Regex.ofClass,
    CharClass.member?]

/-- Pieces behind a text are as deep as they are without it. -/
theorem Piece.depth_le_of_literals {t : Text} {ps : List Piece} {n : Nat}
    (h : ∀ p ∈ ps, p.depth ≤ n) : ∀ p ∈ literals t ++ ps, p.depth ≤ n := by
  intro p member
  rcases List.mem_append.1 member with inside | behind
  · obtain ⟨c, -, rfl⟩ := List.mem_map.1 inside
    exact Nat.zero_le n
  · exact h p behind

/-- The pieces of an alternative, in order. -/
def Branch.pieces (b : Branch) : List Piece := b.close.done.reverse

@[simp] theorem Branch.pieces_empty : ({} : Branch).pieces = [] := rfl

/-! ## Reading an escaped text -/

namespace PatternState

variable {s : PatternState} {c : Char} {t : Text}

/-- The state in which pieces have been read behind what was read before. The last of them is given
apart, as it may still be repeated. -/
def withPieces (s : PatternState) (ps : List Piece) (last : Piece) : PatternState :=
  s.setBranch { done := ps.reverse ++ s.level.branch.close.done, last := some last }

/-- The state in which a text has been read behind what was read before. -/
def withText (s : PatternState) (t : Text) (c : Char) : PatternState :=
  s.withPieces (Piece.literals t) (.literal c)

@[simp] theorem pieces_withPieces (s : PatternState) (ps : List Piece) (last : Piece) :
    (s.withPieces ps last).level.branch.pieces = s.level.branch.pieces ++ (ps ++ [last]) := by
  simp [withPieces, setBranch, Branch.pieces, Branch.close, Branch.newest?]

@[simp] theorem pieces_withText (s : PatternState) (t : Text) (c : Char) :
    (s.withText t c).level.branch.pieces =
      s.level.branch.pieces ++ (Piece.literals t ++ [.literal c]) :=
  pieces_withPieces s (Piece.literals t) (.literal c)

theorem readAll?_append_eq {s' : PatternState} {start rest : Text}
    (read : s.readAll? start = some s') : s.readAll? (start ++ rest) = s'.readAll? rest := by
  rw [readAll_append, read, Option.bind_some]

/-- What may be read of a text that stands for itself: nothing is pending, and case and white space
matter. -/
structure IsPlain (s : PatternState) : Prop where
  pending : s.pending = .nothing
  uncommented : s.inComment = false
  cased : s.level.modes.ignoreCase = false
  unspaced : s.level.modes.spaced = false

theorem pushLiteral?_eq (h : s.IsPlain) (c : Char) : s.pushLiteral? c = some (s.withText [] c) := by
  rw [pushLiteral?, Modes.literal?, Modes.fold, h.cased]
  simp only [Bool.false_and, Bool.not_false, if_neg Bool.false_ne_true, if_true, pushClass?,
    Option.map_some, Piece.char_one]
  rfl

theorem readPlain?_of_not_reserved (h : isReserved c = false) :
    s.readPlain? c = s.pushLiteral? c := by
  unfold readPlain?
  split <;> first | rfl | (exfalso; revert h; decide)

theorem letter?_of_reserved (modes : Modes) (h : isReserved c = true) :
    EscapeStage.letter? modes c = some (.inr (.literal c)) := by
  have member : c ∈ ".?*+^$[]\\()\x7b\x7d|-".toList := List.contains_iff_mem.1 h
  simp only [String.reduceToList, List.mem_cons, List.not_mem_nil, or_false] at member
  rcases member with rfl | rfl | rfl | rfl | rfl | rfl | rfl | rfl | rfl | rfl | rfl | rfl | rfl |
    rfl | rfl <;> rfl

theorem readAll?_escapeChar (h : s.IsPlain) (c : Char) :
    s.readAll? (escapeChar c) = some (s.withText [] c) := by
  obtain ⟨level, outer, groups, names, pending, inComment⟩ := s
  obtain ⟨rfl, rfl, cased, unspaced⟩ := h
  rw [← pushLiteral?_eq ⟨rfl, rfl, cased, unspaced⟩ c, escapeChar]
  replace unspaced : level.modes.spaced = false := unspaced
  cases reserved : isReserved c with
  | true =>
    simp [readAll?, read?, unspaced, readChar?, readPlain?, EscapeStage.read,
      letter?_of_reserved level.modes reserved]
  | false => simp [readAll?, read?, unspaced, readChar?, readPlain?_of_not_reserved reserved]

theorem IsPlain.withText (h : s.IsPlain) : (s.withText t c).IsPlain := ⟨h.1, h.2, h.3, h.4⟩

/-- An escaped text is read as the characters of the text, whatever they are. -/
theorem readAll?_escape (h : s.IsPlain) (t : Text) (c : Char) :
    s.readAll? (escape (t ++ [c])) = some (s.withText t c) := by
  induction t generalizing s with
  | nil =>
    rw [List.nil_append, escape_cons, escape_nil, List.append_nil]
    exact readAll?_escapeChar h c
  | cons d t ih =>
    rw [List.cons_append, escape_cons, readAll?_append_eq (readAll?_escapeChar h d), ih h.withText]
    simp [PatternState.withText, withPieces, setBranch, Branch.close, Branch.newest?,
      Piece.literals]

/-- The same if the pattern goes on behind the text. -/
theorem readAll?_escape_append (h : s.IsPlain) (t : Text) (c : Char) (rest : Text) :
    s.readAll? (escape t ++ (escapeChar c ++ rest)) = (s.withText t c).readAll? rest := by
  have whole : escape (t ++ [c]) = escape t ++ escapeChar c := by simp [escape_append]
  rw [← List.append_assoc, ← whole, readAll?_append_eq (readAll?_escape h t c)]

/-- The same if more is read behind the character that ends the text. -/
theorem readAll?_escape_append_append {s' : PatternState} {segment rest : Text} (tail : Text)
    (h : s.IsPlain) (split : segment = escapeChar c ++ tail)
    (read : (s.withText t c).readAll? tail = some s') :
    s.readAll? (escape t ++ (segment ++ rest)) = s'.readAll? rest := by
  rw [split, List.append_assoc, readAll?_escape_append h, readAll?_append_eq read]

/-- An escaped text does not begin with a question mark. -/
theorem readAll?_escape_opened (h : s.pending = .opened) (uncommented : s.inComment = false)
    (unspaced : s.level.modes.spaced = false) (t : Text) (c : Char) (more : Text) :
    s.readAll? (escape t ++ (escapeChar c ++ more)) =
      { s with pending := .nothing }.openCapture.readAll? (escape t ++ (escapeChar c ++ more)) := by
  have first (d : Char) : ∃ e rest, escapeChar d = e :: rest ∧ e ≠ '?' := by
    unfold escapeChar
    split
    · exact ⟨_, _, rfl, by decide⟩
    · rename_i free
      exact ⟨d, [], rfl, fun h => free (h ▸ rfl)⟩
  obtain ⟨e, rest, text, proper⟩ :
      ∃ e rest, escape t ++ (escapeChar c ++ more) = e :: rest ∧ e ≠ '?' := by
    cases t with
    | nil =>
      obtain ⟨e, rest, escaped, proper⟩ := first c
      exact ⟨e, rest ++ more, by simp [escaped], proper⟩
    | cons d t =>
      obtain ⟨e, rest, escaped, proper⟩ := first d
      exact ⟨e, rest ++ (escape t ++ (escapeChar c ++ more)), by simp [escaped], proper⟩
  rw [text]
  simp [readAll?, read?, readChar?, uncommented, unspaced, h, proper, openCapture, openGroup]

end PatternState

/-! ## The terms of a pattern -/

/-- The terms that pieces are a sequence of, where texts that follow each other are one. -/
def Piece.terms (ps : List Piece) : List Regex :=
  ((ps.map Piece.regex).flatMap Regex.pieces).foldr Regex.prepend []

namespace Regex

variable {rs : List Regex} {t u : Text}

/-- Neither a sequence nor a choice, nor a term that reads nothing. -/
def IsPart (r : Regex) : Prop := r.pieces = [r] ∧ r.alternatives = [r]

@[simp] theorem isPart_text : (text t).IsPart ↔ t ≠ [] := by
  cases t with
  | nil => simp [IsPart, pieces]
  | cons => simp [IsPart, pieces, alternatives]

@[simp] theorem isPart_char (k : CharClass) : (char k).IsPart := ⟨rfl, rfl⟩

@[simp] theorem isPart_group (n : Nat) (r : Regex) : (group n r).IsPart := ⟨rfl, rfl⟩

@[simp] theorem isPart_repeated (r : Regex) (least : Nat) (most : Option Nat) (greedy : Bool) :
    (repeated r least most greedy).IsPart := ⟨rfl, rfl⟩

/-- The characters of a text are one term with the text behind them. -/
theorem terms_literals {ps : List Piece} (rest : Piece.terms ps = text u :: rs) :
    Piece.terms (Piece.literals t ++ ps) = text (t ++ u) :: rs := by
  induction t with
  | nil => exact rest
  | cons c t ih =>
    rw [Piece.terms, Piece.literals, List.map_cons, List.cons_append, List.map_cons,
      List.flatMap_cons, List.foldr_append, ← Piece.literals, ← Piece.terms, ih]
    rfl

/-- The same with some pieces before the text. -/
theorem terms_append_literals {qs : List Piece} (ps : List Piece)
    (rest : Piece.terms qs = text u :: rs) :
    Piece.terms (ps ++ (Piece.literals t ++ qs)) =
      ((ps.map Piece.regex).flatMap pieces).foldr prepend (text (t ++ u) :: rs) := by
  rw [← terms_literals rest, Piece.terms, Piece.terms, List.map_append, List.flatMap_append,
    List.foldr_append]

theorem pieces_inOrder (parts : ∀ r ∈ rs, r.IsPart) : (inOrder rs).pieces = rs := by
  induction rs with
  | nil => rfl
  | cons r rest ih =>
    obtain ⟨first, others⟩ := List.forall_mem_cons.1 parts
    cases rest with
    | nil => exact first.1
    | cons r' rest =>
      rw [inOrder, pieces, first.1, ih others]
      · rfl
      · simp

/-- A sequence is not simplified further as the only alternative. -/
theorem choice_inOrder (parts : ∀ r ∈ rs, r.IsPart) : choice [inOrder rs] = inOrder rs := by
  have only : (inOrder rs).alternatives = [inOrder rs] := by
    match rs, parts with
    | [], _ => rfl
    | [r], parts => exact (parts r List.mem_cons_self).2
    | _ :: _ :: _, _ => rfl
  simp [choice, only, pieces_inOrder parts]

theorem foldl_max_le {depths : List Nat} {least bound : Nat} (h : least ≤ bound)
    (h' : ∀ d ∈ depths, d ≤ bound) : depths.foldl max least ≤ bound := by
  induction depths generalizing least with
  | nil => exact h
  | cons d rest ih =>
    obtain ⟨first, others⟩ := List.forall_mem_cons.1 h'
    exact ih (Nat.max_le.2 ⟨h, first⟩) others

theorem levelsAround_le {depths : List Nat} {bound : Nat} (h : ∀ d ∈ depths, d ≤ bound) :
    levelsAround depths ≤ bound + 1 := by
  have deepest : depths.foldl max 0 ≤ bound := foldl_max_le (Nat.zero_le bound) h
  unfold levelsAround
  split
  · exact Nat.le_succ_of_le deepest
  · exact Nat.succ_le_succ deepest

/-- What has been read of a level with one alternative, as a term. -/
theorem regex_toPiece {l : Level} (single : l.choices = [])
    (terms : Piece.terms l.branch.pieces = rs) (parts : ∀ r ∈ rs, r.IsPart) :
    l.toPiece.regex = inOrder rs := by
  rw [← choice_inOrder parts, ← terms, Level.toPiece, single]
  rfl

theorem depth_toPiece_le {l : Level} {bound : Nat} (single : l.choices = [])
    (depth : ∀ p ∈ l.branch.pieces, p.depth ≤ bound) : l.toPiece.depth ≤ bound + 1 := by
  have only : l.toPiece.depth = l.branch.toPiece.depth := by
    simp [Level.toPiece, single, Piece.choice, levelsAround]
  rw [only]
  refine levelsAround_le fun d member => ?_
  obtain ⟨p, inside, rfl⟩ := List.mem_map.1 member
  exact depth p inside

/-- When a pattern that has been read stands for a term: the groups have ended, there is one
alternative, and the depth is not beyond the limit. -/
theorem parse?_eq_some {modes : Modes} {pattern : Text} {s : PatternState} (rs : List Regex)
    (read : PatternState.readAll? { level := { modes } } pattern = some s)
    (complete : s.outer = [] ∧ s.pending = .nothing ∧ s.level.choices = [])
    (terms : Piece.terms s.level.branch.pieces = rs) (parts : ∀ r ∈ rs, r.IsPart)
    (depth : ∀ p ∈ s.level.branch.pieces, p.depth ≤ 249) :
    parse? modes pattern = some (inOrder rs) := by
  obtain ⟨closed, pending, single⟩ := complete
  have whole := regex_toPiece single terms parts
  have shallow := depth_toPiece_le single depth
  rw [parse?, read, Option.bind_some, PatternState.finish?]
  simp [closed, pending, shallow, whole]

/-- An escaped text stands for the text. -/
theorem parse?_escape (modes : Modes) (cased : modes.ignoreCase = false)
    (unspaced : modes.spaced = false) (t : Text) : parse? modes (escape t) = some (text t) := by
  rcases List.eq_nil_or_concat t with rfl | ⟨t, c, rfl⟩
  · rfl
  · rw [List.concat_eq_append]
    have read := PatternState.readAll?_escape (s := { level := { modes } })
      ⟨rfl, rfl, cased, unspaced⟩ t c
    refine parse?_eq_some [text (t ++ [c])] read ⟨rfl, rfl, rfl⟩ ?_ (by simp) ?_
    · rw [PatternState.pieces_withText]
      exact terms_literals rfl
    · rw [PatternState.pieces_withText]
      exact Piece.depth_le_of_literals (by simp [Piece.literal])

end Regex

end HookGraft

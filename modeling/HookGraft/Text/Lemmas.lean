import HookGraft.Text

/-!
# Places in texts

What the functions that take texts apart have to do with putting texts together: each of them is
undone by `++`.

## Main results

* `Text.seekByte?_eq_some_iff`: the byte offsets of a text are the sizes of its initial parts
* `Text.takeBytes_utf8Size`: as many bytes as an initial part has are that part
* `Text.dropStart?_eq_some_iff`, `Text.dropEnding?_eq_some_iff`: what is left of a text without an
  initial or a final part
* `Text.cutFirst?_eq_some_iff`, `Text.cutLast?_eq_some_iff`: the first and the last occurrence
* `Text.hasInfix_iff`: a text contains its infixes
* `Text.infix_append_cons_iff`: what lacks a delimiter does not occur across it
* `Text.intercalate_pieces`, `Text.not_mem_of_mem_pieces`: the pieces are the text without its
  delimiters
* `Text.pieces_intercalate`: parts without delimiters are the pieces of what they are written as
-/

namespace HookGraft.Text

/-! ## Sizes in bytes -/

@[simp]
theorem utf8Size_nil : utf8Size [] = 0 := rfl

@[simp]
theorem utf8Size_cons (c : Char) (text : Text) :
    utf8Size (c :: text) = c.utf8Size + utf8Size text := rfl

/-- No text but the empty one takes up no bytes. -/
theorem utf8Size_replicate (n : Nat) (c : Char) :
    utf8Size (List.replicate n c) = n * c.utf8Size := by
  induction n with
  | zero => simp
  | succ n ih => rw [List.replicate_succ, utf8Size_cons, ih, Nat.succ_mul, Nat.add_comm]

theorem utf8Size_eq_zero_iff {text : Text} : utf8Size text = 0 ↔ text = [] := by
  cases text with
  | nil => simp
  | cons c rest =>
    have := c.utf8Size_pos
    simp only [utf8Size_cons, reduceCtorEq, iff_false]
    omega

theorem seekByteFrom_eq_some_iff {n : Nat} {seen text before after : Text} :
    seekByteFrom n seen text = some (before, after) ↔
      ∃ part, text = part ++ after ∧ before = seen.reverse ++ part ∧ utf8Size part = n := by
  induction text generalizing n seen with
  | nil =>
    cases n with
    | zero =>
      simp only [seekByteFrom, Option.some.injEq, Prod.mk.injEq]
      constructor
      · rintro ⟨rfl, rfl⟩
        exact ⟨[], by simp⟩
      · rintro ⟨part, h, rfl, _⟩
        obtain ⟨rfl, rfl⟩ := List.append_eq_nil_iff.1 h.symm
        simp
    | succ n =>
      simp only [seekByteFrom, reduceCtorEq, false_iff, not_exists, not_and]
      intro part h _ size
      obtain ⟨rfl, -⟩ := List.append_eq_nil_iff.1 h.symm
      simp at size
  | cons c rest ih =>
    cases n with
    | zero =>
      simp only [seekByteFrom, Option.some.injEq, Prod.mk.injEq, utf8Size_eq_zero_iff]
      constructor
      · rintro ⟨rfl, rfl⟩
        exact ⟨[], by simp⟩
      · rintro ⟨_, h, rfl, rfl⟩
        simp [h]
    | succ n =>
      have pos := c.utf8Size_pos
      simp only [seekByteFrom]
      split
      · rename_i fits
        rw [ih]
        constructor
        · rintro ⟨part, rfl, rfl, size⟩
          exact ⟨c :: part, by simp, by simp, by simp only [utf8Size_cons]; omega⟩
        · rintro ⟨part, h, rfl, size⟩
          cases part with
          | nil => simp at size
          | cons d part =>
            obtain ⟨rfl, rfl⟩ := List.cons.inj h
            exact ⟨part, rfl, by simp, by simp only [utf8Size_cons] at size; omega⟩
      · rename_i tooWide
        simp only [reduceCtorEq, false_iff, not_exists, not_and]
        intro part h _ size
        cases part with
        | nil => simp at size
        | cons d part =>
          obtain ⟨rfl, rfl⟩ := List.cons.inj h
          simp only [utf8Size_cons] at size
          omega

/-- The byte offsets of a text are the sizes of its initial parts. -/
theorem seekByte?_eq_some_iff {n : Nat} {text before after : Text} :
    seekByte? n text = some (before, after) ↔
      text = before ++ after ∧ utf8Size before = n := by
  rw [seekByte?, seekByteFrom_eq_some_iff]
  constructor
  · rintro ⟨part, rfl, rfl, size⟩
    exact ⟨by simp, by simpa using size⟩
  · rintro ⟨rfl, size⟩
    exact ⟨before, rfl, by simp, size⟩

theorem takeBytesFrom_utf8Size (seen part rest : Text) :
    takeBytesFrom seen (utf8Size part) (part ++ rest) = seen.reverse ++ part := by
  induction part generalizing seen with
  | nil =>
    cases rest with
    | nil => simp [takeBytesFrom]
    | cons c rest =>
      have pos := c.utf8Size_pos
      have wide : ¬ c.utf8Size ≤ 0 := by omega
      simp [takeBytesFrom, wide]
  | cons c part ih => simp [takeBytesFrom, ih]

theorem takeBytesFrom_append {n : Nat} {part : Text} (seen rest : Text) (fits : n ≤ utf8Size part) :
    takeBytesFrom seen n (part ++ rest) = takeBytesFrom seen n part := by
  induction part generalizing seen n with
  | nil =>
    obtain rfl : n = 0 := Nat.le_zero.1 fits
    have nothing := takeBytesFrom_utf8Size seen [] rest
    rw [utf8Size_nil, List.append_nil] at nothing
    rw [nothing]
    rfl
  | cons c part ih =>
    rw [utf8Size_cons] at fits
    by_cases first : c.utf8Size ≤ n
    · simp [takeBytesFrom, first, ih (c :: seen) (by omega : n - c.utf8Size ≤ utf8Size part)]
    · simp [takeBytesFrom, first]

/-- What lies behind a text does not count if the text has bytes enough. -/
theorem takeBytes_append {n : Nat} {part : Text} (rest : Text) (fits : n ≤ utf8Size part) :
    takeBytes n (part ++ rest) = takeBytes n part :=
  takeBytesFrom_append [] rest fits

/-- As many bytes as an initial part has are that part. -/
theorem takeBytes_utf8Size (part rest : Text) :
    takeBytes (utf8Size part) (part ++ rest) = part := by
  simp [takeBytes, takeBytesFrom_utf8Size]

/-! ## Occurrences of a text -/

theorem dropStart?_eq_some_iff {start text rest : Text} :
    dropStart? start text = some rest ↔ text = start ++ rest := by
  induction start generalizing text with
  | nil => simp [dropStart?, eq_comm]
  | cons s start ih =>
    cases text with
    | nil => simp [dropStart?]
    | cons c text =>
      by_cases h : s = c
      · simp [dropStart?, h, ih]
      · have h' : c ≠ s := fun e => h e.symm
        simp [dropStart?, h, h']

theorem dropEnding?_eq_some_iff {ending text rest : Text} :
    dropEnding? ending text = some rest ↔ text = rest ++ ending := by
  simp only [dropEnding?, Option.map_eq_some_iff, dropStart?_eq_some_iff]
  constructor
  · rintro ⟨reversed, h, rfl⟩
    simpa using congrArg List.reverse h
  · rintro rfl
    exact ⟨rest.reverse, by simp, by simp⟩

/-- The first occurrence has the least text before it. -/
theorem cutFirst?_eq_some_iff {part text before after : Text} :
    cutFirst? part text = some (before, after) ↔
      text = before ++ part ++ after ∧
        ∀ b a, text = b ++ part ++ a → before.length ≤ b.length := by
  induction text generalizing before with
  | nil =>
    simp only [cutFirst?]
    constructor
    · intro h
      split at h
      · rename_i empty
        obtain ⟨rfl, rfl⟩ := Prod.mk.inj (Option.some.inj h)
        simp_all
      · contradiction
    · rintro ⟨h, -⟩
      simp at h
      simp [h]
  | cons c rest ih =>
    simp only [cutFirst?]
    cases here : dropStart? part (c :: rest) with
    | some after' =>
      have start := dropStart?_eq_some_iff.1 here
      simp only [Option.some.injEq, Prod.mk.injEq]
      constructor
      · rintro ⟨rfl, rfl⟩
        exact ⟨by simpa using start, by simp⟩
      · rintro ⟨h, least⟩
        have := least [] after' (by simpa using start)
        obtain rfl : before = [] := List.length_eq_zero_iff.1 (by simpa using this)
        simp only [List.nil_append] at h
        exact ⟨rfl, List.append_cancel_left (start.symm.trans h)⟩
    | none =>
      -- nothing begins here, so every occurrence has `c` before it
      have later : ∀ {b a}, c :: rest = b ++ part ++ a → ∃ b', b = c :: b' := by
        intro b a h
        cases b with
        | nil =>
          rw [dropStart?_eq_some_iff.2 (by simpa using h)] at here
          contradiction
        | cons d b => exact ⟨b, by rw [(List.cons.inj h).1]⟩
      simp only [Option.map_eq_some_iff, Prod.exists, Prod.mk.injEq]
      constructor
      · rintro ⟨b, a, h, rfl, rfl⟩
        obtain ⟨rfl, least⟩ := ih.1 h
        refine ⟨by simp, fun b' a' h' => ?_⟩
        obtain ⟨b', rfl⟩ := later h'
        have := least b' a' (List.cons.inj h').2
        simpa using this
      · rintro ⟨h, least⟩
        obtain ⟨b, rfl⟩ := later h
        refine ⟨b, after, ih.2 ⟨(List.cons.inj h).2, fun b' a' h' => ?_⟩, rfl, rfl⟩
        have := least (c :: b') a' (by rw [h']; rfl)
        simpa using this

/-- A text that occurs is cut at. -/
theorem isSome_cutFirst? (part before after : Text) :
    (cutFirst? part (before ++ part ++ after)).isSome = true := by
  induction before with
  | nil =>
    have start : dropStart? part (part ++ after) = some after := dropStart?_eq_some_iff.2 rfl
    cases whole : part ++ after with
    | nil =>
      rw [List.nil_append, whole, (List.append_eq_nil_iff.1 whole).1]
      rfl
    | cons c rest =>
      rw [whole] at start
      rw [List.nil_append, whole, cutFirst?, start]
      rfl
  | cons c before ih =>
    rw [List.cons_append, List.cons_append, cutFirst?]
    split
    · rfl
    · rw [Option.isSome_map, ih]

/-- A text that occurs does not occur before its first occurrence. -/
theorem exists_first_occurrence {part text : Text} (proper : part ≠ []) (inside : part <:+: text) :
    ∃ before after, text = before ++ part ++ after ∧ ¬ part <:+: before := by
  obtain ⟨b, a, rfl⟩ := inside
  obtain ⟨⟨before, after⟩, cut⟩ := Option.isSome_iff_exists.1 (isSome_cutFirst? part b a)
  obtain ⟨whole, least⟩ := cutFirst?_eq_some_iff.1 cut
  refine ⟨before, after, whole, ?_⟩
  rintro ⟨b', a', rfl⟩
  have le := least b' (a' ++ part ++ after) (by simp [whole])
  have := List.length_pos_iff.2 proper
  simp only [List.length_append] at le
  omega

/-- A single delimiter is cut at where it comes first. -/
theorem cutFirst?_append_cons {delimiter : Char} {before : Text} (after : Text)
    (none : delimiter ∉ before) :
    cutFirst? [delimiter] (before ++ delimiter :: after) = some (before, after) := by
  refine cutFirst?_eq_some_iff.2 ⟨by simp, fun b a h => Nat.le_of_not_lt fun shorter => none ?_⟩
  rw [List.append_assoc] at h
  rcases List.append_eq_append_iff.1 h with ⟨more, rfl, -⟩ | ⟨more, rfl, split⟩
  · exact absurd shorter (Nat.not_lt.2 (List.prefix_append before more).length_le)
  · cases more with
    | nil => simp at shorter
    | cons c more =>
      obtain ⟨rfl, -⟩ := List.cons.inj split
      exact List.mem_append_right b List.mem_cons_self

theorem cutFirst?_singleton_eq_some_iff {delimiter : Char} {text before after : Text} :
    cutFirst? [delimiter] text = some (before, after) ↔
      delimiter ∉ before ∧ text = before ++ delimiter :: after := by
  constructor
  · intro cut
    obtain ⟨whole, least⟩ := cutFirst?_eq_some_iff.1 cut
    refine ⟨fun member => ?_, by simpa using whole⟩
    -- an earlier delimiter would have less text before it
    obtain ⟨earlier, between, rfl⟩ := List.append_of_mem member
    have := least earlier (between ++ delimiter :: after) (by simp [whole])
    rw [List.length_append, List.length_cons] at this
    omega
  · rintro ⟨none, rfl⟩
    exact cutFirst?_append_cons after none

theorem isSome_cutLast? (part before after : Text) :
    (cutLast? part (before ++ part ++ after)).isSome := by
  induction before with
  | nil =>
    rw [List.nil_append]
    cases h : part ++ after with
    | nil => simp [cutLast?, (List.append_eq_nil_iff.1 h).1]
    | cons c rest =>
      have here : dropStart? part (c :: rest) = some after := dropStart?_eq_some_iff.2 h.symm
      simp only [cutLast?, here]
      split <;> rfl
  | cons c before ih =>
    obtain ⟨⟨b, a⟩, h⟩ := Option.isSome_iff_exists.1 ih
    simp only [List.cons_append, cutLast?, h]
    rfl

/-- The last occurrence has the least text after it. -/
theorem cutLast?_eq_some_iff {part text before after : Text} :
    cutLast? part text = some (before, after) ↔
      text = before ++ part ++ after ∧
        ∀ b a, text = b ++ part ++ a → after.length ≤ a.length := by
  induction text generalizing before after with
  | nil =>
    simp only [cutLast?]
    constructor
    · intro h
      split at h
      · obtain ⟨rfl, rfl⟩ := Prod.mk.inj (Option.some.inj h)
        simp_all
      · contradiction
    · rintro ⟨h, -⟩
      simp at h
      simp [h]
  | cons c rest ih =>
    simp only [cutLast?]
    cases there : cutLast? part rest with
    | some found =>
      obtain ⟨b₀, a₀⟩ := found
      obtain ⟨whole, least₀⟩ := ih.1 there
      -- an occurrence without a character before it lies before the one found in the rest
      have size := congrArg List.length whole
      simp only [List.length_append] at size
      simp only [Option.some.injEq, Prod.mk.injEq]
      constructor
      · rintro ⟨rfl, rfl⟩
        refine ⟨by simp [whole], fun b a h => ?_⟩
        cases b with
        | nil =>
          have := congrArg List.length h
          simp only [List.length_cons, List.nil_append, List.length_append] at this
          omega
        | cons d b => exact least₀ b a (List.cons.inj h).2
      · rintro ⟨h, least⟩
        have le := least (c :: b₀) a₀ (by simp [whole])
        cases before with
        | nil =>
          have := congrArg List.length h
          simp only [List.length_cons, List.nil_append, List.length_append] at this
          omega
        | cons d b =>
          obtain ⟨rfl, split⟩ := List.cons.inj h
          have same : a₀.length = after.length := Nat.le_antisymm (least₀ b after split) le
          obtain ⟨heads, rfl⟩ := List.append_inj' (whole.symm.trans split) same
          exact ⟨by rw [List.append_cancel_right heads], rfl⟩
    | none =>
      have none_in_rest : ∀ b a, rest ≠ b ++ part ++ a := by
        rintro b a rfl
        have found := isSome_cutLast? part b a
        rw [there] at found
        contradiction
      have first : ∀ {b a}, c :: rest = b ++ part ++ a → b = [] := by
        intro b a h
        cases b with
        | nil => rfl
        | cons d b => exact absurd (List.cons.inj h).2 (none_in_rest b a)
      simp only [Option.map_eq_some_iff, dropStart?_eq_some_iff, Prod.mk.injEq]
      constructor
      · rintro ⟨a, h, rfl, rfl⟩
        refine ⟨by simpa using h, fun b a' h' => ?_⟩
        obtain rfl := first h'
        have same := List.append_cancel_left (h.symm.trans (by simpa using h'))
        exact Nat.le_of_eq (congrArg List.length same)
      · rintro ⟨h, -⟩
        obtain rfl := first h
        exact ⟨after, by simpa using h, rfl, rfl⟩

/-- Two different characters come last where they do not follow again. -/
theorem cutLast?_pair_eq_some_iff {c d : Char} (other : c ≠ d) {text before after : Text} :
    cutLast? [c, d] text = some (before, after) ↔
      ¬ [c, d] <:+: after ∧ text = before ++ c :: d :: after := by
  constructor
  · intro cut
    obtain ⟨whole, least⟩ := cutLast?_eq_some_iff.1 cut
    refine ⟨?_, by simpa using whole⟩
    rintro ⟨between, behind, rfl⟩
    have := least (before ++ c :: d :: between) behind (by simp [whole])
    simp only [List.length_append, List.length_cons] at this
    omega
  · rintro ⟨none, rfl⟩
    have whole : before ++ c :: d :: after = before ++ [c, d] ++ after := by simp
    obtain ⟨⟨before', after'⟩, cut⟩ :=
      Option.isSome_iff_exists.1 (isSome_cutLast? [c, d] before after)
    rw [← whole] at cut
    obtain ⟨split, least⟩ := cutLast?_eq_some_iff.1 cut
    have shorter := least before after whole
    rw [whole, List.append_assoc, List.append_assoc] at split
    rcases List.append_eq_append_iff.1 split with ⟨more, rfl, here⟩ | ⟨more, rfl, here⟩
    · -- the two characters do not follow before their second one
      match more, here with
      | [], here =>
        obtain rfl : after = after' := List.append_cancel_left here
        simpa using cut
      | [_], here => exact absurd (List.cons.inj (List.cons.inj here).2).1.symm other
      | _ :: _ :: more, here =>
        have behind := (List.cons.inj (List.cons.inj here).2).2
        exact absurd ⟨more, after', by simpa using behind.symm⟩ none
    · have lengths := congrArg List.length here
      simp only [List.length_append, List.length_cons, List.length_nil] at lengths
      obtain rfl : more = [] := List.length_eq_zero_iff.1 (by omega)
      obtain rfl : after' = after := List.append_cancel_left here
      simpa using cut

/-- A text contains a part if the part is an infix of it. -/
theorem hasInfix_iff {part text : Text} : hasInfix part text = true ↔ part <:+: text := by
  induction text with
  | nil => rw [hasInfix, List.isEmpty_iff, List.infix_nil]
  | cons c rest ih =>
    rw [hasInfix, Bool.or_eq_true, List.isPrefixOf_iff_prefix, ih, List.infix_cons_iff]

/-- A part without a delimiter does not occur across one. -/
theorem infix_append_cons_iff {part before after : Text} {delimiter : Char}
    (free : delimiter ∉ part) :
    part <:+: before ++ delimiter :: after ↔ part <:+: before ∨ part <:+: after := by
  constructor
  · rintro ⟨skipped, behind, whole⟩
    rw [List.append_assoc] at whole
    -- the occurrence begins before the delimiter, and then it ends there, or it begins behind it
    rcases List.append_eq_append_iff.1 whole with ⟨first, rfl, split⟩ | ⟨last, rfl, split⟩
    · rcases List.append_eq_append_iff.1 split with ⟨more, rfl, -⟩ | ⟨spare, rfl, across⟩
      · exact .inl ⟨skipped, more, by simp⟩
      · cases spare with
        | nil => exact .inl ⟨skipped, [], by simp⟩
        | cons c spare =>
          obtain ⟨rfl, -⟩ := List.cons.inj across
          exact absurd (List.mem_append_right first List.mem_cons_self) free
    · cases last with
      | nil =>
        cases part with
        | nil => exact .inr List.nil_infix
        | cons c part =>
          obtain ⟨rfl, -⟩ := List.cons.inj split
          exact absurd List.mem_cons_self free
      | cons c last =>
        obtain ⟨-, rfl⟩ := List.cons.inj split
        exact .inr ⟨last, behind, by simp⟩
  · rintro (⟨skipped, behind, rfl⟩ | ⟨skipped, behind, rfl⟩)
    · exact ⟨skipped, behind ++ delimiter :: after, by simp⟩
    · exact ⟨before ++ delimiter :: skipped, behind, by simp⟩

theorem infix_cons_iff_of_not_mem {part text : Text} {c : Char} (free : c ∉ part)
    (proper : part ≠ []) : part <:+: c :: text ↔ part <:+: text := by
  rw [← List.nil_append (c :: text), infix_append_cons_iff free, List.infix_nil]
  exact or_iff_right proper

/-- A part does not end in a text that lacks its last character. -/
theorem infix_append_iff_of_not_mem {part before after : Text} {last : Char}
    (free : last ∉ after) :
    part ++ [last] <:+: before ++ after ↔ part ++ [last] <:+: before := by
  constructor
  · rintro ⟨skipped, behind, whole⟩
    rcases List.append_eq_append_iff.1 whole with ⟨more, rfl, -⟩ | ⟨spare, split, rfl⟩
    · exact ⟨skipped, more, rfl⟩
    · rcases List.eq_nil_or_concat spare with rfl | ⟨spare, c, rfl⟩
      · exact ⟨skipped, [], by simpa using split⟩
      · rw [List.concat_eq_append, ← List.append_assoc, ← List.append_assoc] at split
        obtain ⟨-, same⟩ := List.append_inj' split rfl
        obtain rfl := List.singleton_inj.1 same
        simp at free
  · exact fun inside => inside.trans (List.prefix_append before after).isInfix

/-- A part does not begin in a text that lacks its first character. -/
theorem infix_append_iff_of_head_not_mem {part before after : Text} {first : Char}
    (free : first ∉ before) :
    first :: part <:+: before ++ after ↔ first :: part <:+: after := by
  induction before with
  | nil => rfl
  | cons c before ih =>
    obtain ⟨other, free⟩ := not_or.1 (mt List.mem_cons.2 free)
    rw [List.cons_append, List.infix_cons_iff, List.cons_prefix_cons, ih free]
    exact or_iff_right fun start => other start.1

/-! ## Pieces between delimiters -/

theorem pieces_ne_nil (delimiter : Char) (text : Text) : pieces delimiter text ≠ [] := by
  cases text with
  | nil => simp [pieces]
  | cons c rest =>
    simp only [pieces]
    split
    · simp
    · split <;> simp

/-- Put together again with the delimiter between them, the pieces are the text. -/
theorem intercalate_pieces (delimiter : Char) (text : Text) :
    [delimiter].intercalate (pieces delimiter text) = text := by
  induction text with
  | nil => simp [pieces, List.intercalate]
  | cons c rest ih =>
    simp only [pieces]
    have nonempty := pieces_ne_nil delimiter rest
    generalize pieces delimiter rest = parts at ih nonempty
    cases parts with
    | nil => simp at nonempty
    | cons piece more =>
      split
      · rename_i h
        rw [List.intercalate, List.intersperse_cons_cons, h, ← ih]
        simp [List.intercalate]
      · rw [← ih]
        cases more <;> simp [List.intercalate]

/-- The text begins with the first piece. -/
theorem prefix_of_pieces_eq_cons {delimiter : Char} {text piece : Text} {more : List Text}
    (h : pieces delimiter text = piece :: more) : piece <+: text := by
  induction text generalizing piece more with
  | nil =>
    obtain ⟨rfl, -⟩ := List.cons.inj h
    exact List.prefix_refl _
  | cons c rest ih =>
    simp only [pieces] at h
    split at h
    · obtain ⟨rfl, -⟩ := List.cons.inj h
      exact List.nil_prefix
    · split at h
      · obtain ⟨rfl, -⟩ := List.cons.inj h
        exact List.cons_prefix_cons.2 ⟨rfl, List.nil_prefix⟩
      · rename_i first others
        obtain ⟨rfl, -⟩ := List.cons.inj h
        exact List.cons_prefix_cons.2 ⟨rfl, ih others⟩

/-- Every piece is a part of the text. -/
theorem infix_of_mem_pieces {delimiter : Char} {text piece : Text}
    (h : piece ∈ pieces delimiter text) : piece <:+: text := by
  induction text generalizing piece with
  | nil => simp_all [pieces]
  | cons c rest ih =>
    have later {piece : Text} (h : piece ∈ pieces delimiter rest) : piece <:+: c :: rest :=
      (ih h).trans (List.suffix_cons c rest).isInfix
    cases parts : pieces delimiter (c :: rest) with
    | nil => exact absurd parts (pieces_ne_nil delimiter _)
    | cons first more =>
      rw [parts] at h
      rcases List.mem_cons.1 h with rfl | member
      · exact (prefix_of_pieces_eq_cons parts).isInfix
      · -- a piece behind the first one is a piece of the rest
        simp only [pieces] at parts
        split at parts
        · obtain ⟨-, rfl⟩ := List.cons.inj parts
          exact later member
        · split at parts
          · obtain ⟨-, rfl⟩ := List.cons.inj parts
            contradiction
          · rename_i others
            obtain ⟨-, rfl⟩ := List.cons.inj parts
            exact later (others ▸ List.mem_cons_of_mem _ member)

/-- No piece holds the delimiter. -/
theorem not_mem_of_mem_pieces {delimiter : Char} {text piece : Text}
    (h : piece ∈ pieces delimiter text) : delimiter ∉ piece := by
  induction text generalizing piece with
  | nil => simp_all [pieces]
  | cons c rest ih =>
    simp only [pieces] at h
    split at h
    · rcases List.mem_cons.1 h with rfl | h
      · simp
      · exact ih h
    · rename_i other
      split at h
      · rw [List.mem_singleton.1 h]
        simpa using fun e => other e.symm
      · rename_i first more hp
        rw [hp] at ih
        rcases List.mem_cons.1 h with rfl | h
        · simp only [List.mem_cons, not_or]
          exact ⟨fun e => other e.symm, ih (by simp)⟩
        · exact ih (by simp [h])

theorem pieces_of_not_mem {delimiter : Char} {text : Text} (h : delimiter ∉ text) :
    pieces delimiter text = [text] := by
  induction text with
  | nil => rfl
  | cons c rest ih =>
    obtain ⟨other, none⟩ := not_or.1 (mt List.mem_cons.2 h)
    rw [pieces, if_neg fun e => other e.symm, ih none]

/-- The first piece ends before the first delimiter. -/
theorem pieces_append_cons {delimiter : Char} {first rest : Text} (h : delimiter ∉ first) :
    pieces delimiter (first ++ delimiter :: rest) = first :: pieces delimiter rest := by
  induction first with
  | nil => rw [List.nil_append, pieces, if_pos rfl]
  | cons c more ih =>
    obtain ⟨other, none⟩ := not_or.1 (mt List.mem_cons.2 h)
    rw [List.cons_append, pieces, if_neg fun e => other e.symm, ih none]

/-- What is written with the delimiter between its parts comes apart into them. -/
theorem pieces_intercalate {delimiter : Char} {parts : List Text} (proper : parts ≠ [])
    (none : ∀ part ∈ parts, delimiter ∉ part) :
    pieces delimiter ([delimiter].intercalate parts) = parts := by
  induction parts with
  | nil => contradiction
  | cons first others ih =>
    obtain ⟨here, later⟩ := List.forall_mem_cons.1 none
    cases others with
    | nil =>
      have single : [delimiter].intercalate [first] = first := by simp [List.intercalate]
      rw [single, pieces_of_not_mem here]
    | cons second rest =>
      have split : [delimiter].intercalate (first :: second :: rest) =
          first ++ delimiter :: [delimiter].intercalate (second :: rest) := by
        simp [List.intercalate]
      rw [split, pieces_append_cons here, ih (List.cons_ne_nil second rest) later]

/-- What stands before the first delimiter does not depend on what follows it. -/
theorem headBefore_append_delimiter (delimiter : Char) (first rest : Text) :
    headBefore delimiter (first ++ delimiter :: rest) = headBefore delimiter first := by
  induction first with
  | nil => simp [headBefore]
  | cons c first ih => simp_all [headBefore, List.takeWhile_cons]

/-- A text stands as a whole before the first delimiter just if it holds none. -/
theorem length_headBefore_eq_iff {delimiter : Char} {text : Text} :
    (headBefore delimiter text).length = text.length ↔ delimiter ∉ text := by
  induction text with
  | nil => simp [headBefore]
  | cons c rest ih =>
    by_cases here : c = delimiter
    · simp [headBefore, here]
    · have other : delimiter ≠ c := fun e => here e.symm
      simpa [headBefore, here, other] using ih

theorem headBefore_of_not_mem {delimiter : Char} {text : Text} (h : delimiter ∉ text) :
    headBefore delimiter text = text :=
  (List.takeWhile_prefix _).eq_of_length (length_headBefore_eq_iff.2 h)

theorem headBefore_append_cons {delimiter : Char} {first : Text} (rest : Text)
    (h : delimiter ∉ first) : headBefore delimiter (first ++ delimiter :: rest) = first := by
  rw [headBefore_append_delimiter, headBefore_of_not_mem h]

/-- A text comes apart at a place inside the middle one of three parts. -/
theorem exists_split {a b c front back : Text} (whole : front ++ back = a ++ b ++ c)
    (ge : a.length ≤ front.length) (le : front.length ≤ (a ++ b).length) :
    ∃ kept lost, b = kept ++ lost ∧ front = a ++ kept ∧ back = lost ++ c := by
  have first : front <+: a ++ b :=
    List.prefix_of_prefix_length_le ⟨back, whole⟩ (List.prefix_append _ c) le
  obtain ⟨kept, rfl⟩ : a <+: front := by
    refine List.prefix_of_prefix_length_le ?_ ⟨back, whole⟩ ge
    exact (List.prefix_append a b).trans (List.prefix_append _ c)
  obtain ⟨lost, split⟩ := first
  rw [List.append_assoc, List.append_cancel_left_eq] at split
  subst split
  refine ⟨kept, lost, rfl, rfl, ?_⟩
  simpa using whole

end HookGraft.Text

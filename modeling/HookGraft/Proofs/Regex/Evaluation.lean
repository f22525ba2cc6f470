import HookGraft.Proofs.Regex.Rope
import HookGraft.Proofs.Regex.Run

/-!
# Searching by evaluation

A search can be evaluated inside a proof if its data are: the steps stand in a tree, and what has
been seen is one number, with a bit for each step and place from here on. Places before a character
with which no match begins are passed over.

## Main definitions

* `Program`: the steps of an automaton in a tree
* `Program.excludes`: characters with which no match begins
* `Regex.evaluateFirst?`, `Regex.evaluateMatches`: searches that can be evaluated

## Main results

* `Regex.first?_eq_evaluate`, `Regex.allMatches_eq_evaluate`: they find what a search finds
-/

namespace HookGraft

/-- The class of the character that some steps read before all else, if they begin by reading. -/
def Step.firstRead? : List Step → Option CharClass
  | .read k :: _ => some k
  | .mark _ _ :: rest => firstRead? rest
  | _ => none

/-- The steps of an automaton in a tree, with their number. -/
structure Program where
  steps : Rope Step
  size : Nat
  groupCount : Nat
  /-- the characters with which a match begins, if they are known -/
  first? : Option CharClass

/-- The program of an automaton. -/
def Automaton.program (a : Automaton) : Program where
  steps := .ofList a.steps.toList
  size := a.steps.toList.length
  groupCount := a.groupCount
  first? := Step.firstRead? a.steps.toList

namespace Program

/-- Whether no match begins with a character. -/
def excludes (p : Program) (c : Char) : Bool :=
  match p.first? with
  | none => false
  | some k => !k.contains c

/-- The threads that take the next step of a thread, by preference. -/
def onward (p : Program) (t : Thread) : List Thread :=
  match p.steps.get? t.step with
  | none => []
  | some (.read k) =>
    match t.place.after with
    | [] => []
    | c :: rest =>
      if k.contains c then
        let place := ⟨c :: t.place.before, rest, t.place.offset + c.utf8Size⟩
        [{ t with step := t.step + 1, place }]
      else []
  | some (.check l) => if l.holds t.place then [{ t with step := t.step + 1 }] else []
  | some (.mark n side) =>
    [{ t with step := t.step + 1, marks := ((n, side), t.place) :: t.marks }]
  | some (.jump target) => [{ t with step := target }]
  | some (.fork first second) => [{ t with step := first }, { t with step := second }]

/-- The number of a step and a place at or after byte `origin`. -/
def key (p : Program) (origin : Nat) (t : Thread) : Nat :=
  (t.place.offset - origin) * (p.size + 1) + t.step

/-- The first of some threads that comes to the end, and what has been seen then. -/
def explore (p : Program) (origin : Nat) :
    (fuel : Nat) → List Thread → (seen : Nat) → Option Thread × Nat
  | 0, _, seen | _ + 1, [], seen => (none, seen)
  | fuel + 1, t :: rest, seen =>
    if seen.testBit (p.key origin t) then explore p origin fuel rest seen
    else if t.step = p.size then (some t, seen)
    else explore p origin fuel (p.onward t ++ rest) (seen ||| 1 <<< p.key origin t)

/-- What has been seen, from the place behind a character on. -/
def behind (p : Program) (c : Char) (seen : Nat) : Nat := seen >>> (c.utf8Size * (p.size + 1))

/-- The first match in the text `after` that lies behind `before`. -/
def searchFrom? (p : Program) (fuel : Nat) (seen : Nat) (before : Text) (offset : Nat) :
    (after : Text) → Option Match
  | [] =>
    let start := ⟨before, [], offset⟩
    (p.explore offset fuel [⟨0, start, []⟩] seen).1.map (Match.ofThread p.groupCount start)
  | c :: rest =>
    if p.excludes c then
      searchFrom? p fuel (p.behind c seen) (c :: before) (offset + c.utf8Size) rest
    else
      let start := ⟨before, c :: rest, offset⟩
      match p.explore offset fuel [⟨0, start, []⟩] seen with
      | (some t, _) => some (Match.ofThread p.groupCount start t)
      | (none, seen) =>
        searchFrom? p fuel (p.behind c seen) (c :: before) (offset + c.utf8Size) rest

/-- The first match that begins at or after a place. -/
def firstFrom? (p : Program) (fuel : Nat) (c : Cursor) : Option Match :=
  p.searchFrom? fuel 0 c.before c.offset c.after

/-- At most `limit` matches at or after a place. -/
def matchesFrom (p : Program) (fuel : Nat) :
    (limit : Nat) → (occupied : Bool) → Cursor → List Match
  | 0, _, _ => []
  | limit + 1, occupied, c =>
    let onward (c : Cursor) := (c.next?.map (matchesFrom p fuel limit false)).getD []
    match p.firstFrom? fuel c with
    | none => []
    | some m =>
      if m.whole.isEmpty then
        if occupied ∧ m.whole.start.offset = c.offset then onward c
        else m :: onward m.whole.stop
      else m :: matchesFrom p fuel limit true m.whole.stop

end Program

/-! ## Agreement -/

namespace Automaton

variable (a : Automaton)

theorem onward_eq_program (t : Thread) : a.onward t = a.program.onward t := by
  have same : a.program.steps.get? t.step = a.steps[t.step]? := by
    rw [program, Rope.get?_ofList, Array.getElem?_toList]
  unfold onward Program.onward
  generalize a.program.steps.get? t.step = next at same ⊢
  subst same
  rfl

variable {a} {least origin offset : Nat} {seen : BitSet} {n : Nat}

variable (a origin offset) in
/-- The least number of a step and a place at or after a byte. -/
def base : Nat := (offset - origin) * (a.steps.size + 1)

/-- The steps and places at or after a byte are numbered from this byte on. -/
theorem key_eq_program {t : Thread} (behind : origin ≤ offset) (later : offset ≤ t.place.offset) :
    a.key origin t = a.base origin offset + a.program.key offset t := by
  have split : t.place.offset - origin = offset - origin + (t.place.offset - offset) := by omega
  rw [key, base, Program.key, program, Array.length_toList, split, Nat.add_mul, Nat.add_assoc]

theorem base_add {size : Nat} (behind : origin ≤ offset) :
    a.base origin (offset + size) = a.base origin offset + size * (a.steps.size + 1) := by
  rw [base, base, ← Nat.add_mul, ← Nat.sub_add_comm behind]

theorem key_lt_base {t : Thread} (step : t.step < a.steps.size) (behind : origin ≤ t.place.offset)
    (further : t.place.offset < offset) : a.key origin t < a.base origin offset := by
  have rows : t.place.offset - origin + 1 ≤ offset - origin := by omega
  have := Nat.mul_le_mul_right (a.steps.size + 1) rows
  rw [Nat.add_mul, Nat.one_mul] at this
  rw [key, base]
  omega

/-- A number with a bit for each member of a set from `least` on. -/
def Records (least : Nat) (seen : BitSet) (n : Nat) : Prop :=
  ∀ i, seen.contains (least + i) = n.testBit i

theorem records_empty : Records least .empty 0 := by
  intro i
  simp

theorem Records.insert (h : Records least seen n) (i : Nat) :
    Records least (seen.insert (least + i)) (n ||| 1 <<< i) := by
  intro j
  rw [BitSet.contains_insert, h j, Nat.testBit_or, Nat.one_shiftLeft, Nat.testBit_two_pow,
    Bool.or_comm]
  simp only [Nat.add_left_cancel_iff]

theorem Records.insert_of_lt {i : Nat} (h : Records least seen n) (less : i < least) :
    Records least (seen.insert i) n := by
  intro j
  have other : i ≠ least + j := by omega
  rw [BitSet.contains_insert, h j, decide_eq_false other, Bool.false_or]

theorem Records.behind {c : Char} (h : Records (a.base origin offset) seen n)
    (behind : origin ≤ offset) :
    Records (a.base origin (offset + c.utf8Size)) seen (a.program.behind c n) := by
  intro i
  rw [base_add behind, Nat.add_assoc, h, Program.behind, Nat.testBit_shiftRight, program,
    Array.length_toList]

/-- What is found is the same, and what has been seen from here on. -/
theorem explore_eq_program (fuel : Nat) {threads : List Thread} (behind : origin ≤ offset)
    (onwards : ∀ t ∈ threads, offset ≤ t.place.offset) (h : Records (a.base origin offset) seen n) :
    (a.explore origin fuel threads seen).1 = (a.program.explore offset fuel threads n).1 ∧
      Records (a.base origin offset) (a.explore origin fuel threads seen).2
        (a.program.explore offset fuel threads n).2 := by
  induction fuel generalizing threads seen n with
  | zero => exact ⟨rfl, h⟩
  | succ fuel ih =>
    cases threads with
    | nil => exact ⟨rfl, h⟩
    | cons t rest =>
      obtain ⟨here, later⟩ := List.forall_mem_cons.1 onwards
      have size : a.program.size = a.steps.size := Array.length_toList
      rw [explore, Program.explore, key_eq_program behind here, ← onward_eq_program, size, h]
      by_cases been : n.testBit (a.program.key offset t) = true
      · rw [if_pos been, if_pos been]
        exact ih later h
      · rw [if_neg been, if_neg been]
        by_cases ended : t.step = a.steps.size
        · rw [if_pos ended, if_pos ended]
          exact ⟨rfl, h⟩
        · rw [if_neg ended, if_neg ended]
          refine ih (List.forall_mem_append.2 ⟨fun u next => ?_, later⟩) (h.insert _)
          exact Nat.le_trans here (offset_le_of_onward next)

/-- A thread that goes on to read a character finds nothing before a character of another class, and
sees nothing behind it. -/
theorem explore_firstRead (fuel : Nat) {t : Thread} {k : CharClass} {c : Char} {rest : Text}
    (first : Step.firstRead? (a.steps.toList.drop t.step) = some k)
    (here : t.place.after = c :: rest) (other : k.contains c = false)
    (behind : origin ≤ t.place.offset) (further : t.place.offset < offset)
    (h : Records (a.base origin offset) seen n) :
    (a.explore origin fuel [t] seen).1 = none ∧
      Records (a.base origin offset) (a.explore origin fuel [t] seen).2 n := by
  induction fuel generalizing t seen with
  | zero => exact ⟨rfl, h⟩
  | succ fuel ih =>
    have nothing : ∀ seen', (a.explore origin fuel [] seen') = (none, seen') := by
      intro seen'
      cases fuel <;> rfl
    have inside : t.step < a.steps.size := by
      refine Nat.lt_of_not_le fun out => ?_
      rw [List.drop_eq_nil_of_le (by simpa using out)] at first
      contradiction
    rw [explore]
    by_cases been : seen.contains (a.key origin t) = true
    · rw [if_pos been, nothing]
      exact ⟨rfl, h⟩
    rw [if_neg been, if_neg (Nat.ne_of_lt inside), List.append_nil]
    replace h := h.insert_of_lt (key_lt_base inside behind further)
    have next : a.steps[t.step]? = some a.steps[t.step] := Array.getElem?_eq_getElem inside
    rw [List.drop_eq_getElem_cons (by simpa using inside), Array.getElem_toList] at first
    generalize a.steps[t.step] = step at next first
    cases step with
    | read k' =>
      obtain rfl : k' = k := Option.some.inj first
      have stuck : a.onward t = [] := by simp [onward, next, here, other]
      rw [stuck, nothing]
      exact ⟨rfl, h⟩
    | mark group side =>
      have marked : a.onward t = [⟨t.step + 1, t.place, ((group, side), t.place) :: t.marks⟩] := by
        simp [onward, next]
      rw [marked]
      exact ih first here behind further h
    | check | jump | fork => contradiction

theorem firstRead_of_excludes {c : Char} (h : a.program.excludes c = true) :
    ∃ k, Step.firstRead? a.steps.toList = some k ∧ k.contains c = false := by
  have first : a.program.first? = Step.firstRead? a.steps.toList := rfl
  rw [Program.excludes, first] at h
  split at h
  · contradiction
  · rename_i k found
    exact ⟨k, found, by simpa using h⟩

theorem searchFrom?_eq_program (fuel : Nat) (before after : Text) (behind : origin ≤ offset)
    (h : Records (a.base origin offset) seen n) :
    a.searchFrom? origin fuel seen before offset after =
      a.program.searchFrom? fuel n before offset after := by
  induction after generalizing before offset seen n with
  | nil =>
    have onwards : ∀ t ∈ [(⟨0, ⟨before, [], offset⟩, []⟩ : Thread)], offset ≤ t.place.offset := by
      simp
    have agree := explore_eq_program fuel behind onwards h
    rw [searchFrom?, Program.searchFrom?, agree.1]
    rfl
  | cons c rest ih =>
    have further : origin ≤ offset + c.utf8Size := Nat.le_trans behind (Nat.le_add_right _ _)
    rw [searchFrom?, Program.searchFrom?]
    by_cases excluded : a.program.excludes c = true
    · rw [if_pos excluded]
      obtain ⟨k, first, other⟩ := firstRead_of_excludes excluded
      have size := c.utf8Size_pos
      have vain := explore_firstRead (t := ⟨0, ⟨before, c :: rest, offset⟩, []⟩) fuel first rfl
        other behind (by omega : offset < offset + c.utf8Size) (h.behind behind)
      revert vain
      rcases a.explore origin fuel [⟨0, ⟨before, c :: rest, offset⟩, []⟩] seen with ⟨found, seen'⟩
      rintro ⟨none, left⟩
      obtain rfl : found = Option.none := none
      exact ih _ further left
    · rw [if_neg excluded]
      dsimp only
      have onwards : ∀ t ∈ [(⟨0, ⟨before, c :: rest, offset⟩, []⟩ : Thread)],
          offset ≤ t.place.offset := by simp
      have agree := explore_eq_program fuel behind onwards h
      revert agree
      rcases a.explore origin fuel [⟨0, ⟨before, c :: rest, offset⟩, []⟩] seen with ⟨found, seen'⟩
      rcases a.program.explore offset fuel [⟨0, ⟨before, c :: rest, offset⟩, []⟩] n with
        ⟨found', n'⟩
      rintro ⟨same, left⟩
      obtain rfl : found = found' := same
      cases found with
      | none => exact ih _ further (left.behind behind)
      | some t => rfl

variable (a)

theorem firstFrom?_eq_program (fuel : Nat) (c : Cursor) :
    a.firstFrom? fuel c = a.program.firstFrom? fuel c :=
  searchFrom?_eq_program fuel c.before c.after (Nat.le_refl _) records_empty

theorem matchesFrom_eq_program (fuel limit : Nat) (occupied : Bool) (c : Cursor) :
    a.matchesFrom fuel limit occupied c = a.program.matchesFrom fuel limit occupied c := by
  induction limit generalizing occupied c with
  | zero => rfl
  | succ limit ih =>
    have first := (a.firstFrom?_eq_program fuel c).symm
    have later : a.program.matchesFrom fuel limit = a.matchesFrom fuel limit :=
      funext fun occupied => funext fun c => (ih occupied c).symm
    unfold matchesFrom Program.matchesFrom
    generalize a.program.firstFrom? fuel c = found at first ⊢
    generalize a.program.matchesFrom fuel limit = behind at later ⊢
    subst first later
    rfl

end Automaton

/-- A function of a text that is evaluated before. -/
def Text.forced {α : Type} (f : Text → α) : Text → α
  | [] => f []
  | c :: rest => forced (fun rest => f (c :: rest)) rest

theorem Text.forced_eq {α : Type} (f : Text → α) (text : Text) : forced f text = f text := by
  induction text generalizing f with
  | nil => rfl
  | cons c rest ih => exact ih _

namespace Regex

/-- The first match in a text, by a search that can be evaluated. -/
def evaluateFirst? (r : Regex) : Text → Option Match :=
  Text.forced fun text =>
    r.automaton.program.firstFrom? (r.automaton.fuel text) (Cursor.start text)

/-- All matches in a text, by a search that can be evaluated. -/
def evaluateMatches (r : Regex) : Text → List Match :=
  Text.forced fun text =>
    r.automaton.program.matchesFrom (r.automaton.fuel text) (text.length + 1) false
      (Cursor.start text)

/-- The search finds what the evaluation finds. The one is exchanged for the other while the text is a
variable, or the search itself would be evaluated. -/
theorem first?_eq_evaluate (r : Regex) (text : Text) : r.first? text = r.evaluateFirst? text := by
  rw [evaluateFirst?, Text.forced_eq]
  exact r.automaton.firstFrom?_eq_program _ _

theorem allMatches_eq_evaluate (r : Regex) (text : Text) :
    r.allMatches text = r.evaluateMatches text := by
  rw [evaluateMatches, Text.forced_eq]
  exact r.automaton.matchesFrom_eq_program _ _ _ _

end Regex

end HookGraft

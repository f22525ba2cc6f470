import HookGraft.Pipeline.Standard
import HookGraft.Proofs.Pattern.Literal
import HookGraft.Proofs.Regex.SizeLimit
import HookGraft.Proofs.Rendering

/-!
# The terms of the signatures

Every signature of the standard rules stands for a term, whatever texts are bound to its
parameters. These texts are escaped, so none of them can break the pattern or change what the rest
of it means. Only their length can: a pattern may be too large.

## Main definitions

* `Signature.StandsFor`: a signature that is read as a term
* `Locator.checked`: a locator, unless its pattern is too large
* `MapObject.anchorTerm`, `MapObject.assignmentTerm`, `MapEncoder.constructionTerm`,
  `ChatListener.unbindingTerm`, `ColourPicker.pickerTerm`: the terms of signatures

## Main results

* `Signature.StandsFor.compile`: how a signature is compiled
* `MapObject.anchor_standsFor`, `MapObject.assignment_standsFor`, and so on: the signatures of the
  rules
-/

namespace HookGraft

open Regex

theorem length_digit_ranges : CharClass.digit.ranges.length = 71 := by rfl

theorem length_inLine_ranges : CharClass.inLine.ranges.length = 2 := by rfl

theorem length_notSemicolon_ranges :
    (CharClass.complement (.one ';')).ranges.length = 2 := by rfl

/-- A locator, unless its pattern is too large. -/
def Locator.checked (l : Locator) : Except PatchError Locator :=
  if l.regex.isTooLarge then .error (.invalidPattern l.rule l.pattern .tooLarge) else .ok l

theorem Locator.checked_eq_ok {l : Locator} (fits : l.regex.isTooLarge = false) :
    l.checked = .ok l := by
  rw [checked, fits, if_neg Bool.false_ne_true]

theorem Locator.checked_eq_error {l : Locator} (large : l.regex.isTooLarge = true) :
    l.checked = .error (.invalidPattern l.rule l.pattern .tooLarge) := by
  rw [checked, if_pos large]

theorem Locator.checked_eq_ok_iff {l l' : Locator} :
    l.checked = .ok l' ↔ l.regex.isTooLarge = false ∧ l' = l := by
  cases large : l.regex.isTooLarge with
  | true => simp [checked_eq_error large]
  | false => simp [checked_eq_ok large, eq_comm]

/-- Under some bindings, a signature is rendered as a pattern that is read as a term. -/
structure Signature.StandsFor (s : Signature) (b : Bindings) (pattern : Text) (r : Regex) :
    Prop where
  rendered : s.template.render b .escaped = .ok pattern
  read : parse? { dotAll := s.multiline } pattern = some r

/-- A signature that stands for a term is compiled, unless the term is too large. -/
theorem Signature.StandsFor.compile {s : Signature} {b : Bindings} {pattern : Text} {r : Regex}
    (h : s.StandsFor b pattern r) (rule : String) :
    s.compile rule b = Locator.checked ⟨rule, pattern, r⟩ := by
  have within : ofText { dotAll := s.multiline } pattern =
      if r.isTooLarge then .error .tooLarge else .ok r := by
    rw [ofText, h.read]
  rw [Signature.compile, h.rendered, Locator.checked]
  simp only [bind, Except.bind, within]
  cases r.isTooLarge <;> rfl

theorem Signature.StandsFor.eq_of_compile {s : Signature} {b : Bindings} {pattern : Text}
    {r : Regex} {rule : String} {l : Locator} (h : s.StandsFor b pattern r)
    (compiled : s.compile rule b = .ok l) : l = ⟨rule, pattern, r⟩ :=
  (Locator.checked_eq_ok_iff.1 ((h.compile rule).symm.trans compiled)).2

/-- A text and then some pieces. -/
theorem parse?_text_append {t u rest : Text} (c : Char) (ps : List Piece) (last : Piece)
    {rs : List Regex} {groups : Nat}
    (read : (PatternState.withText {} t c).readAll? rest =
      some { (PatternState.withText {} t c).withPieces ps last with groups })
    (terms : Piece.terms (.literal c :: (ps ++ [last])) = text u :: rs)
    (proper : u ≠ []) (parts : ∀ r ∈ rs, r.IsPart)
    (depth : ∀ p ∈ ps ++ [last], p.depth ≤ 249) :
    parse? {} (escape t ++ (escapeChar c ++ rest)) = some (inOrder (text (t ++ u) :: rs)) := by
  have start := PatternState.readAll?_escape_append (s := {}) ⟨rfl, rfl, rfl, rfl⟩ t c rest
  have pieces : ((PatternState.withText {} t c).withPieces ps last).level.branch.pieces =
      Piece.literals t ++ .literal c :: (ps ++ [last]) := by
    rw [PatternState.pieces_withPieces, PatternState.pieces_withText, List.append_assoc,
      List.append_assoc]
    rfl
  refine parse?_eq_some _ (start.trans read) ⟨rfl, rfl, rfl⟩ ?_ ?_ ?_
  · rw [pieces]
    exact terms_literals terms
  · exact List.forall_mem_cons.2 ⟨isPart_text.2 (by simp [proper]), parts⟩
  · rw [pieces]
    exact Piece.depth_le_of_literals (List.forall_mem_cons.2 ⟨Nat.zero_le _, depth⟩)

/-- Some characters of one line. -/
def span (least most : Nat) : Regex := repeated (char .inLine) least (some most) true

/-- The piece that some characters of one line are written as. -/
def spanPiece (least most : Nat) : Piece := ⟨span least most, 1⟩

/-! ## The map object -/

namespace MapObject

/-- The key, a colon, three letters or digits, and a number in brackets. -/
def anchorTerm (key : Text) : Regex := inOrder [
  text (key ++ [':']),
  repeated (char ⟨[(48, 57), (65, 90), (97, 122)]⟩) 3 (some 3) true,
  text ['['],
  repeated (char .digit) 1 none true,
  text [']']]

theorem isSized_anchorTerm (key : Text) :
    (anchorTerm key).IsSized (Text.utf8Size key) 472000 where
  noChoice := rfl
  size_le := by
    simp only [anchorTerm, inOrder, textSize, Text.utf8Size_append]
    omega
  bulk_le := by
    simp only [anchorTerm, inOrder, bulk, length_digit_ranges, Text.utf8Size_append,
      List.length_cons, List.length_nil]
    have : Text.utf8Size [':'] = 1 := rfl
    have : Text.utf8Size ['['] = 1 := rfl
    have : Text.utf8Size [']'] = 1 := rfl
    omega

theorem parse?_anchor (key : Text) :
    parse? {} (escape key ++ ":[a-zA-Z0-9]{3}\\[\\d+\\]".toList) = some (anchorTerm key) :=
  parse?_text_append ':' [
      ⟨repeated (char ⟨[(48, 57), (65, 90), (97, 122)]⟩) 3 (some 3) true, 3⟩,
      .literal '[',
      ⟨repeated (char .digit) 1 none true, 1⟩] (.literal ']')
    rfl rfl (by simp) (by simp) (by simp [Piece.literal])

/-- The slot, an equals sign, and anything up to a semicolon. -/
def assignmentParts (slot : Text) : List Regex := [
  text (slot ++ ['=']),
  repeated (char (.complement (.one ';'))) 1 none true,
  text [';']]

/-- An assignment, in a group. -/
def assignmentTerm (slot : Text) : Regex := group 1 (inOrder (assignmentParts slot))

theorem isSized_assignmentTerm (slot : Text) :
    (assignmentTerm slot).IsSized (Text.utf8Size slot) 13000 where
  noChoice := rfl
  size_le := by
    simp only [assignmentTerm, assignmentParts, inOrder, textSize, Text.utf8Size_append]
    omega
  bulk_le := by
    simp only [assignmentTerm, assignmentParts, inOrder, bulk, length_notSemicolon_ranges,
      Text.utf8Size_append]
    have : Text.utf8Size ['='] = 1 := rfl
    have : Text.utf8Size [';'] = 1 := rfl
    omega

/-- What has been read of the group before it ends. -/
def assignmentGroup (slot : Text) : PatternState :=
  (PatternState.withText (PatternState.openCapture {}) slot '=').withPieces
    [⟨repeated (char (.complement (.one ';'))) 1 none true, 2⟩] (.literal ';')

theorem pieces_assignmentGroup (slot : Text) :
    (assignmentGroup slot).level.branch.pieces = Piece.literals slot ++ [.literal '=',
      ⟨repeated (char (.complement (.one ';'))) 1 none true, 2⟩, .literal ';'] := by
  simp [assignmentGroup, PatternState.openCapture, PatternState.openGroup]

theorem regex_assignmentGroup (slot : Text) :
    (assignmentGroup slot).level.toPiece.regex = inOrder (assignmentParts slot) := by
  refine regex_toPiece rfl ?_ (by simp [assignmentParts])
  rw [pieces_assignmentGroup]
  exact terms_literals rfl

theorem depth_assignmentGroup_le (slot : Text) :
    (assignmentGroup slot).level.toPiece.depth ≤ 3 := by
  refine depth_toPiece_le rfl ?_
  rw [pieces_assignmentGroup]
  exact Piece.depth_le_of_literals (by simp [Piece.literal])

theorem readAll?_assignment (slot : Text) :
    PatternState.readAll? {} ("(".toList ++ (escape slot ++ "=[^;]+;)".toList)) = some {
      level := ({} : Level).push ((assignmentGroup slot).level.toPiece.group (some 1))
      groups := 1 } := by
  have opened : PatternState.readAll? {} "(".toList = some { pending := .opened } := rfl
  have first := PatternState.readAll?_escape_opened (s := { pending := .opened }) rfl rfl rfl slot '='
    "[^;]+;)".toList
  have inside := PatternState.readAll?_escape_append (s := PatternState.openCapture {})
    ⟨rfl, rfl, rfl, rfl⟩ slot '=' "[^;]+;)".toList
  exact (PatternState.readAll?_append_eq opened).trans (first.trans (inside.trans rfl))

/-- The pattern of an assignment, as it is rendered. -/
def assignmentPattern (slot : Text) : Text := "(".toList ++ (escape slot ++ "=[^;]+;)".toList)

theorem parse?_assignment (slot : Text) :
    parse? {} (assignmentPattern slot) = some (assignmentTerm slot) := by
  have regex := regex_assignmentGroup slot
  have depth := depth_assignmentGroup_le slot
  refine parse?_eq_some [assignmentTerm slot] (readAll?_assignment slot) ⟨rfl, rfl, rfl⟩ ?_ ?_ ?_
  · rw [assignmentTerm, ← regex]
    rfl
  · simp [assignmentTerm]
  · refine List.forall_mem_singleton.2 ?_
    show (assignmentGroup slot).level.toPiece.depth + 1 ≤ 249
    omega

theorem anchor_standsFor (key : String) (b : Bindings) :
    (anchor key).StandsFor b (anchor key).template.source (anchorTerm key.toList) := by
  refine ⟨Template.render_of_no_parameters rfl, ?_⟩
  have source : (anchor key).template.source =
      escape key.toList ++ ":[a-zA-Z0-9]{3}\\[\\d+\\]".toList := by
    simp only [anchor, Template.source, Segment.source, List.flatMap_cons, List.flatMap_nil,
      List.append_nil]
  rw [source]
  exact parse?_anchor key.toList

theorem assignment_standsFor {b : Bindings} {slot : Text}
    (bound : b.get? Identifier.mapObject = some slot) :
    assignment.StandsFor b (assignmentPattern slot) (assignmentTerm slot) := by
  have rendered : assignment.template.render b .escaped = _ :=
    Template.render_eq_fill (fun _ => slot) (List.forall_mem_singleton.2 bound)
  refine ⟨rendered.trans ?_, parse?_assignment slot⟩
  simp only [assignment, Template.fill, Segment.fill, Embedding.apply, List.flatMap_cons,
    List.flatMap_nil, List.append_nil, assignmentPattern]

end MapObject

/-! ## The map encoder -/

namespace MapEncoder

/-- The slot, an equals sign, one character in a group, and the rest of the construction. -/
def constructionTerm (slot : Text) : Regex := inOrder [
  text (slot ++ ['=']),
  group 1 (char .inLine),
  text ['['],
  span 1 25,
  text "]();".toList]

theorem isSized_constructionTerm (slot : Text) :
    (constructionTerm slot).IsSized (Text.utf8Size slot) 309000 where
  noChoice := rfl
  size_le := by
    simp only [constructionTerm, inOrder, textSize, Text.utf8Size_append]
    omega
  bulk_le := by
    simp only [constructionTerm, span, inOrder, bulk, length_inLine_ranges, Text.utf8Size_append]
    have : Text.utf8Size ['='] = 1 := rfl
    have : Text.utf8Size ['['] = 1 := rfl
    have : Text.utf8Size "]();".toList = 4 := rfl
    omega

theorem parse?_construction (slot : Text) :
    parse? {} (escape slot ++ "=(.)\\[.{1,25}\\]\\(\\);".toList) =
      some (constructionTerm slot) :=
  parse?_text_append '=' [
      ⟨group 1 (char .inLine), 1⟩, .literal '[', spanPiece 1 25, .literal ']', .literal '(',
      .literal ')'] (.literal ';')
    rfl rfl (by simp) (by simp [span]) (by simp [Piece.literal, spanPiece])

theorem construction_standsFor {b : Bindings} {slot : Text}
    (bound : b.get? Identifier.mapObject = some slot) :
    ∃ pattern, construction.StandsFor b pattern (constructionTerm slot) := by
  have rendered : construction.template.render b .escaped = _ :=
    Template.render_eq_fill (fun _ => slot) (List.forall_mem_singleton.2 bound)
  refine ⟨_, rendered, ?_⟩
  simp only [construction, Template.fill, Segment.fill, Embedding.apply, List.flatMap_cons,
    List.flatMap_nil, List.append_nil]
  exact parse?_construction slot

/-- The definition of a constructor, as it is written. -/
def definitionText (encoder : Text) : Text :=
  "function ".toList ++ (encoder ++ "()\x7b\x7d".toList)

theorem isSized_definitionText (encoder : Text) :
    (text (definitionText encoder)).IsSized (Text.utf8Size encoder) 416 := by
  have size : Text.utf8Size (definitionText encoder) = 9 + (Text.utf8Size encoder + 4) := by
    delta definitionText
    rw [Text.utf8Size_append, Text.utf8Size_append]
    rfl
  refine ⟨rfl, ?_, ?_⟩ <;> simp only [textSize, bulk, size] <;> omega

theorem definition_standsFor {b : Bindings} {encoder : Text}
    (bound : b.get? Identifier.mapEncoder = some encoder) :
    ∃ pattern, definition.StandsFor b pattern (text (definitionText encoder)) := by
  have rendered : definition.template.render b .escaped = _ :=
    Template.render_eq_fill (fun _ => encoder) (List.forall_mem_singleton.2 bound)
  refine ⟨_, rendered, ?_⟩
  have parts := escape_append encoder "()\x7b\x7d".toList
  have whole := (escape_append "function ".toList (encoder ++ "()\x7b\x7d".toList)).trans
    (congrArg (escape "function ".toList ++ ·) parts)
  simp only [definition, Template.fill, Segment.fill, Embedding.apply, List.flatMap_cons,
    List.flatMap_nil, List.append_nil]
  exact (congrArg (parse? {}) whole.symm).trans (parse?_escape {} rfl rfl (definitionText encoder))

end MapEncoder

/-! ## The reset routine -/

namespace ResetState

/-- Three characters of one line and then some text. -/
def threeBefore (rest : List Regex) : Regex :=
  inOrder (char .inLine :: char .inLine :: char .inLine :: rest)

/-- A slot with a number is cleared. -/
def clearing : Regex :=
  threeBefore [text ['['], repeated (char .digit) 1 none true, text "]=-1;".toList]

/-- The parts of the routine. -/
def routineParts : List Regex := [
  text "function ".toList, char .inLine, char .inLine, char .inLine, text "()\x7b".toList,
  span 0 40, repeated (group 1 clearing) 2 (some 2) true,
  span 0 40, group 2 (threeBefore [text "(true);".toList]),
  span 0 40, repeated (group 3 (threeBefore [text "();".toList])) 2 (some 2) true,
  repeated (char (.complement (.one '\x7d'))) 1 none true, text ['\x7d']]

theorem compile_routine (rule : String) (b : Bindings) :
    routine.compile rule b = .ok ⟨rule, routine.template.source, inOrder routineParts⟩ := by
  have fits : (inOrder routineParts).isTooLarge = false := isTooLarge_of_bulk_le rfl (by decide +kernel)
  have rendered : routine.template.render b .escaped = _ := Template.render_of_no_parameters rfl
  have standsFor : routine.StandsFor b _ (inOrder routineParts) := ⟨rendered, by decide +kernel⟩
  exact (standsFor.compile rule).trans (Locator.checked_eq_ok fits)

end ResetState

/-! ## The undo history -/

namespace UndoHistory

/-- Up to three digits. -/
def index : Regex := repeated (char .digit) 1 (some 3) true

/-- The piece that up to three digits are written as. -/
def indexPiece : Piece := ⟨index, 1⟩

/-- The parts of the beginning of the routine. -/
def routineParts (container object : Text) : List Regex := [
  text "function ".toList, char .inLine, char .inLine, char .inLine, text "()\x7b".toList,
  span 1 150, text (container ++ ['[']), index, text ("]--;\x7d".toList ++ (container ++ ['['])),
  index, text [']'], span 1 40, text "](JSON[".toList, span 1 40,
  text ("](".toList ++ (object ++ [')']))]

/-- The beginning of the routine. -/
def routineTerm (container object : Text) : Regex := inOrder (routineParts container object)

theorem isSized_routineTerm (container object : Text) :
    (routineTerm container object).IsSized
      (2 * Text.utf8Size container + Text.utf8Size object) 5271000 where
  noChoice := rfl
  size_le := by
    simp only [routineTerm, routineParts, inOrder, textSize, Text.utf8Size_append]
    omega
  bulk_le := by
    simp only [routineTerm, routineParts, index, span, inOrder, bulk, length_digit_ranges,
      length_inLine_ranges, Text.utf8Size_append]
    have : Text.utf8Size "function ".toList = 9 := rfl
    have : Text.utf8Size "()\x7b".toList = 3 := rfl
    have : Text.utf8Size ['['] = 1 := rfl
    have : Text.utf8Size "]--;\x7d".toList = 5 := rfl
    have : Text.utf8Size [']'] = 1 := rfl
    have : Text.utf8Size "](JSON[".toList = 7 := rfl
    have : Text.utf8Size "](".toList = 2 := rfl
    have : Text.utf8Size [')'] = 1 := rfl
    omega

/-- The pieces before the container. -/
def firstPieces : List Piece :=
  Piece.literals "function ".toList ++ [.char .inLine, .char .inLine, .char .inLine] ++
    Piece.literals "()\x7b".toList ++ [spanPiece 1 150]

/-- The pieces between the two occurrences of the container. -/
def middlePieces : List Piece :=
  .literal '[' :: indexPiece :: Piece.literals "]--;\x7d".toList

/-- The pieces between the container and the slot of the map. -/
def lastPieces : List Piece :=
  .literal '[' :: indexPiece :: .literal ']' :: spanPiece 1 40 ::
    Piece.literals "](JSON[".toList ++ [spanPiece 1 40, .literal ']', .literal '(']

/-- What has been read before the container comes first. -/
def stateBefore : PatternState :=
  PatternState.setBranch {} {
    done := firstPieces.dropLast.reverse
    last := some (.char .inLine)
    repeats := some ⟨1, some 150, true, true⟩ }

/-- What has been read before the container comes again. -/
def stateBetween (container : Text) : PatternState :=
  (stateBefore.withText container '[').withPieces middlePieces.dropLast.tail (.literal '\x7d')

/-- What has been read before the slot of the map. -/
def stateBehind (container : Text) : PatternState :=
  ((stateBetween container).withText container '[').withPieces lastPieces.dropLast.tail
    (.literal '(')

/-- The rendered pattern. -/
def routinePattern (container object : Text) : Text :=
  "function ...\\(\\)\\\x7b.{1,150}".toList ++ (escape container ++
    ("\\[\\d{1,3}\\]--;\\\x7d".toList ++ (escape container ++
      ("\\[\\d{1,3}\\].{1,40}\\]\\(JSON\\[.{1,40}\\]\\(".toList ++ (escape object ++
        "\\)".toList)))))

theorem readAll?_container (container rest : Text) :
    stateBefore.readAll? (escape container ++ ("\\[\\d{1,3}\\]--;\\\x7d".toList ++ rest)) =
      (stateBetween container).readAll? rest :=
  PatternState.readAll?_escape_append_append (c := '[')
    "\\d{1,3}\\]--;\\\x7d".toList ⟨rfl, rfl, rfl, rfl⟩ (by decide +kernel) rfl

theorem readAll?_container_again (container rest : Text) :
    (stateBetween container).readAll? (escape container ++
      ("\\[\\d{1,3}\\].{1,40}\\]\\(JSON\\[.{1,40}\\]\\(".toList ++ rest)) =
        (stateBehind container).readAll? rest :=
  PatternState.readAll?_escape_append_append (c := '[')
    "\\d{1,3}\\].{1,40}\\]\\(JSON\\[.{1,40}\\]\\(".toList ⟨rfl, rfl, rfl, rfl⟩
    (by decide +kernel) rfl

theorem readAll?_routine (container object : Text) :
    PatternState.readAll? {} (routinePattern container object) =
      some ((stateBehind container).withText object ')') := by
  have first : PatternState.readAll? {} "function ...\\(\\)\\\x7b.{1,150}".toList =
    some stateBefore := rfl
  have last := PatternState.readAll?_escape_append (s := stateBehind container)
    ⟨rfl, rfl, rfl, rfl⟩ object ')' []
  exact (PatternState.readAll?_append_eq first).trans
    ((readAll?_container container _).trans ((readAll?_container_again container _).trans last))

/-- All pieces. -/
def routinePieces (container object : Text) : List Piece :=
  firstPieces ++ (Piece.literals container ++ (middlePieces ++ (Piece.literals container ++
    (lastPieces ++ (Piece.literals object ++ [.literal ')'])))))

theorem pieces_routine (container object : Text) :
    ((stateBehind container).withText object ')').level.branch.pieces =
      routinePieces container object := by
  have first : stateBefore.level.branch.pieces = firstPieces := rfl
  have middle : middlePieces = .literal '[' :: (middlePieces.dropLast.tail ++ [.literal '\x7d']) :=
    rfl
  have last : lastPieces = .literal '[' :: (lastPieces.dropLast.tail ++ [.literal '(']) := rfl
  rw [routinePieces, middle, last]
  simp only [stateBehind, stateBetween, PatternState.pieces_withText,
    PatternState.pieces_withPieces, first, List.append_assoc, List.cons_append, List.nil_append]

theorem terms_routine (container object : Text) :
    Piece.terms (routinePieces container object) = routineParts container object := by
  have closing : Piece.terms [.literal ')'] = [text [')']] := rfl
  have last := terms_append_literals lastPieces (t := object) closing
  have middle := terms_append_literals middlePieces (t := container) last
  exact terms_append_literals firstPieces (t := container) middle

theorem depth_routine_le (container object : Text) :
    ∀ p ∈ routinePieces container object, p.depth ≤ 1 := by
  have last : ∀ p ∈ lastPieces ++ (Piece.literals object ++ [.literal ')']), p.depth ≤ 1 :=
    List.forall_mem_append.2 ⟨by decide +kernel, Piece.depth_le_of_literals (by decide)⟩
  have middle := List.forall_mem_append.2
    ⟨(by decide +kernel : ∀ p ∈ middlePieces, p.depth ≤ 1),
      Piece.depth_le_of_literals (t := container) last⟩
  exact List.forall_mem_append.2
    ⟨by decide +kernel, Piece.depth_le_of_literals (t := container) middle⟩

theorem parse?_routine (container object : Text) :
    parse? {} (routinePattern container object) = some (routineTerm container object) := by
  refine parse?_eq_some _ (readAll?_routine container object) ⟨rfl, rfl, rfl⟩ ?_ ?_ ?_
  · rw [pieces_routine, terms_routine]
  · simp [routineParts, index, span]
  · rw [pieces_routine]
    exact fun p member => Nat.le_trans (depth_routine_le container object p member) (by decide)

theorem routine_standsFor {b : Bindings} {container object : Text}
    (boundContainer : b.get? Identifier.mapContainer = some container)
    (boundObject : b.get? Identifier.mapObject = some object) :
    ∃ pattern, routine.StandsFor b pattern (routineTerm container object) := by
  have rendered : routine.template.render b .escaped = _ :=
    Template.render_eq_fill
      (fun name => if name = Identifier.mapObject then object else container)
      (List.forall_mem_cons.2 ⟨boundContainer, List.forall_mem_singleton.2 boundObject⟩)
  refine ⟨_, rendered, ?_⟩
  simp only [routine, Template.fill, Segment.fill, Embedding.apply, Identifier.mapObject,
    List.flatMap_cons, List.flatMap_nil, List.append_nil, String.reduceEq, reduceIte]
  exact parse?_routine container object

end UndoHistory

/-! ## The chat listener -/

namespace ChatListener

/-- What has to stand before the call. -/
def before : Regex := inOrder [
  text "this[".toList, span 10 20, text "]=function()\x7b".toList, span 20 40,
  text "this[".toList, span 10 20, text "]=false;".toList, span 0 11]

/-- The call. -/
def call : Regex := inOrder [
  text "$(document)[".toList, span 10 20, text "](".toList, span 10 20, text [','], span 3 4,
  text ");".toList]

/-- The call, behind a group for what has to stand before it. -/
def unbindingTerm : Regex := seq (group 1 before) call

theorem compile_unbinding (rule : String) (b : Bindings) :
    unbinding.compile rule b = .ok ⟨rule, unbinding.template.source, unbindingTerm⟩ := by
  have fits : unbindingTerm.isTooLarge = false := isTooLarge_of_bulk_le rfl (by decide +kernel)
  have rendered : unbinding.template.render b .escaped = _ := Template.render_of_no_parameters rfl
  have standsFor : unbinding.StandsFor b _ unbindingTerm := ⟨rendered, by decide +kernel⟩
  exact (standsFor.compile rule).trans (Locator.checked_eq_ok fits)

end ChatListener

/-! ## The colour picker -/

namespace ColourPicker

/-- The head of the method, with a group for its key. -/
def head : Regex := inOrder [
  text "this[".toList, group 2 (span 10 25), text "]=function(".toList, span 3 4, text [','],
  span 3 4, text [','], span 3 4, text [','], span 3 4, text ")\x7b".toList]

/-- An assignment of one slot to another. -/
def slotAssignment : Regex := inOrder [
  span 3 4, text ['['], span 0 25, text "]=".toList, span 3 4, text ['['], span 0 30,
  text "];".toList]

/-- The body of the method with the closing brace and semicolon. -/
def rest : Regex := inOrder [
  span 50 250, repeated slotAssignment 3 (some 3) true, span 0 75, span 3 4,
  text "(false)".toList, span 0 75, text ";\x7d;".toList]

/-- The method: a group for its head and one for the rest. -/
def pickerTerm : Regex := seq (group 1 head) (group 3 rest)

theorem compile_picker (rule : String) (b : Bindings) :
    picker.compile rule b = .ok ⟨rule, picker.template.source, pickerTerm⟩ := by
  have fits : pickerTerm.isTooLarge = false := isTooLarge_of_bulk_le rfl (by decide +kernel)
  have rendered : picker.template.render b .escaped = _ := Template.render_of_no_parameters rfl
  have standsFor : picker.StandsFor b _ pickerTerm := ⟨rendered, by decide +kernel⟩
  exact (standsFor.compile rule).trans (Locator.checked_eq_ok fits)

end ColourPicker

end HookGraft

import HookGraft.Hook.Namespace
import HookGraft.Proofs.Rendering

/-!
# Inserted code

Code is inserted by filling a template. Wherever the template puts in the expression for the
namespace, the code goes on with a dot and a key.

## Main definitions

* `Code`: a template with the texts of its parameters
* `Code.filled`: a template with what its parameters are bound to
* `Mention`: a place in a code where the namespace is put in, with its key
* `Mention.Guarded`: a key that is tested and then called
* `Serves`: codes that provide some slots, and use no others

## Main results

* `Code.text_eq`: what stands around a place where the namespace is put in
* `Serves.append`: codes that provide more slots together than each of them
* `Serves.infix_text`: codes that provide a slot have the namespace and a dot in them
-/

namespace HookGraft

/-! ## Places where the namespace is put in -/

/-- A place in a code where the namespace is put in: what stands before it and behind it. -/
structure Mention where
  before : Text
  behind : Text

namespace Mention

variable {m : Mention} {key tail root : Text}

/-- The characters that a key is made of. -/
def isKeyChar (c : Char) : Bool := c.isAlphanum || c == '_' || c == '$'

/-- The key that stands behind the namespace and a dot. -/
def key? (m : Mention) : Option Text :=
  match m.behind with
  | '.' :: name => some (name.takeWhile isKeyChar)
  | _ => none

/-- What stands behind the key. -/
def rest (m : Mention) : Text := m.behind.tail.dropWhile isKeyChar

/-- Whether the key is assigned. -/
def Assigned (m : Mention) : Prop := m.rest.head? = some '='

/-- The key is tested and then called, and this is one of the two places where it stands. -/
def Guarded (root key : Text) (m : Mention) : Prop :=
  ("if(".toList <:+ m.before ∧ ∃ more, m.rest = ')' :: (root ++ '.' :: (key ++ '(' :: more))) ∨
    ("if(".toList ++ (root ++ '.' :: (key ++ [')'])) <:+ m.before ∧ ∃ more, m.rest = '(' :: more)

/-- What is guarded is not assigned. -/
theorem Guarded.not_assigned (guarded : m.Guarded root key) : ¬ m.Assigned := by
  intro assigned
  rw [Assigned] at assigned
  rcases guarded with ⟨-, more, split⟩ | ⟨-, more, split⟩
  · rw [split] at assigned
    cases assigned
  · rw [split] at assigned
    cases assigned

/-- Behind the dot stand the key and the rest. -/
theorem behind_eq (keyed : m.key? = some key) : m.behind = '.' :: (key ++ m.rest) := by
  simp only [key?] at keyed
  split at keyed
  · rename_i name dotted
    obtain rfl := Option.some.inj keyed
    rw [rest, dotted, List.tail_cons, List.takeWhile_append_dropWhile]
  · contradiction

/-- A key ends where a character comes that is not part of keys. -/
theorem key?_eq {ending : Text} (split : m.behind = '.' :: (key ++ (ending ++ tail)))
    (inside : key.all isKeyChar = true) (outside : ending.head?.map isKeyChar = some false) :
    m.key? = some key ∧ m.rest = ending ++ tail := by
  have chars : ∀ d ∈ key, isKeyChar d = true := List.all_eq_true.1 inside
  obtain ⟨c, first, other⟩ := Option.map_eq_some_iff.1 outside
  obtain ⟨others, rfl⟩ := List.head?_eq_some_iff.1 first
  have stops : ¬ isKeyChar c = true := by simp [other]
  constructor
  · rw [key?, split]
    simp only [List.takeWhile_append_of_pos chars, List.cons_append]
    rw [List.takeWhile_cons_of_neg stops, List.append_nil]
  · rw [Mention.rest, split, List.tail_cons, List.dropWhile_append_of_pos chars,
      List.cons_append, List.dropWhile_cons_of_neg stops]

end Mention

/-! ## Codes -/

/-- The positions in a template at which the namespace is put in. -/
def Template.places (t : Template) : List Nat :=
  (List.range t.segments.length).filter fun i =>
    t.segments[i]? = some (.parameter Bindings.namespaceName)

/-- A template with the texts of its parameters. -/
structure Code where
  template : Template
  value : String → Text

namespace Code

variable {code : Code} {m : Mention} {i j : Nat} {segment : Segment}
  {piece key ending : Text}

/-- The text of a code. -/
def text (code : Code) : Text := code.template.fill code.value

/-- A template filled from bindings, and from names that are bound for it only. -/
def filled (b : Bindings) (template : Template) (locals : List (String × Text)) : Code :=
  ⟨template, (b.bindAll locals).textOf⟩

/-- What is rendered is the text of a code. -/
theorem text_filled {b : Bindings} {t : Template} {locals : List (String × Text)} {new : Text}
    (rendered : t.render (b.bindAll locals) .raw = .ok new) : (filled b t locals).text = new :=
  (Template.eq_fill_of_render rendered).symm

/-- Names that are bound for a code only leave the namespace bound. -/
theorem value_filled {b : Bindings} {root : Text} (t : Template) {locals : List (String × Text)}
    (bound : b.get? Bindings.namespaceName = some root)
    (apart : Bindings.namespaceName ∉ locals.map Prod.fst) :
    (filled b t locals).value Bindings.namespaceName = root :=
  Bindings.textOf_eq ((Bindings.get?_bindAll_of_not_mem apart).trans bound)

/-- The text of the pieces before a position. -/
def upTo (code : Code) (i : Nat) : Text :=
  (code.template.segments.take i).flatMap (Segment.fill code.value)

/-- The text of the pieces from a position on. -/
def onwards (code : Code) (i : Nat) : Text :=
  (code.template.segments.drop i).flatMap (Segment.fill code.value)

theorem upTo_append_onwards (code : Code) (i : Nat) :
    code.upTo i ++ code.onwards i = code.text := by
  rw [upTo, onwards, ← List.flatMap_append, List.take_append_drop]
  rfl

theorem upTo_succ (here : code.template.segments[i]? = some segment) :
    code.upTo (i + 1) = code.upTo i ++ segment.fill code.value := by
  rw [upTo, List.take_add_one, here, List.flatMap_append, Option.toList_some,
    List.flatMap_singleton]
  rfl

theorem onwards_eq (here : code.template.segments[i]? = some segment) :
    code.onwards i = segment.fill code.value ++ code.onwards (i + 1) := by
  obtain ⟨inside, rfl⟩ := List.getElem?_eq_some_iff.1 here
  rw [onwards, List.drop_eq_getElem_cons inside, List.flatMap_cons]
  rfl

/-- What stands before and behind one piece of a code. -/
def around (code : Code) (i : Nat) : Mention where
  before := code.upTo i
  behind := code.onwards (i + 1)

/-- The places where the namespace is put in. -/
def mentions (code : Code) : List Mention := code.template.places.map code.around

/-- What stands around a place where the namespace is put in. -/
theorem text_eq (member : m ∈ code.mentions) :
    code.text = m.before ++ code.value Bindings.namespaceName ++ m.behind := by
  obtain ⟨i, place, rfl⟩ := List.mem_map.1 member
  have here := of_decide_eq_true (List.mem_filter.1 place).2
  rw [← upTo_append_onwards code i, onwards_eq here, ← List.append_assoc]
  rfl

/-- A key that stands in one piece. -/
theorem keyed (here : code.template.segments[i + 1]? = some (.literal piece))
    (split : piece = '.' :: (key ++ ending)) (inside : key.all Mention.isKeyChar = true)
    (outside : ending.head?.map Mention.isKeyChar = some false) :
    (code.around i).key? = some key ∧ (code.around i).rest = ending ++ code.onwards (i + 2) := by
  refine Mention.key?_eq ?_ inside outside
  show code.onwards (i + 1) = _
  rw [onwards_eq here, Segment.fill, split, List.cons_append, List.append_assoc]

/-- A key that ends in a parameter. -/
theorem keyed_parameter {name : String} (key : Text)
    (here : code.template.segments[i + 1]? = some (.literal ('.' :: key)))
    (parameter : code.template.segments[i + 2]? = some (.parameter name))
    (last : code.template.segments[i + 3]? = some (.literal ending))
    (inside : (key ++ code.value name).all Mention.isKeyChar = true)
    (outside : ending.head?.map Mention.isKeyChar = some false) :
    (code.around i).key? = some (key ++ code.value name) ∧
      (code.around i).rest = ending ++ code.onwards (i + 4) := by
  refine Mention.key?_eq ?_ inside outside
  show code.onwards (i + 1) = _
  rw [onwards_eq here, onwards_eq parameter, onwards_eq last, Segment.fill, Segment.fill,
    Segment.fill, List.cons_append, List.append_assoc]

/-- A key that is tested, and then called directly behind the test. -/
theorem guarded (condition : code.template.segments[i]? = some (.literal "if(".toList))
    (first : code.template.segments[i + 1]? = some (.parameter Bindings.namespaceName))
    (second : code.template.segments[j]? = some (.parameter Bindings.namespaceName))
    (tested : (code.around (i + 1)).key? = some key ∧
      (code.around (i + 1)).rest = [')'] ++ code.onwards j)
    (called : (code.around j).key? = some key) (opens : (code.around j).rest.head? = some '(') :
    (code.around (i + 1)).Guarded (code.value Bindings.namespaceName) key ∧
      (code.around j).Guarded (code.value Bindings.namespaceName) key := by
  obtain ⟨tail, calls⟩ := List.head?_eq_some_iff.1 opens
  have call : code.onwards j =
      code.value Bindings.namespaceName ++ '.' :: (key ++ '(' :: tail) := by
    rw [onwards_eq second, ← calls, ← Mention.behind_eq called]
    rfl
  have before : code.upTo j = code.upTo (i + 1) ++
      (code.value Bindings.namespaceName ++ '.' :: (key ++ [')'])) := by
    have whole := (upTo_append_onwards code j).trans (upTo_append_onwards code (i + 1)).symm
    have behind : code.onwards (i + 2) = '.' :: (key ++ ([')'] ++ code.onwards j)) := by
      rw [← tested.2, ← Mention.behind_eq tested.1]
      rfl
    rw [onwards_eq first, behind] at whole
    refine List.append_cancel_right (whole.trans ?_)
    simp [Segment.fill]
  rw [upTo_succ condition] at before
  refine ⟨.inl ⟨⟨_, (upTo_succ condition).symm⟩, tail, ?_⟩,
    .inr ⟨⟨code.upTo i, ?_⟩, tail, calls⟩⟩
  · rw [tested.2, call]
    rfl
  · rw [← List.append_assoc]
    exact before.symm

end Code

/-! ## Slots that are provided -/

/-- The key of a slot is used. What the host may leave out is called under a guard. -/
def Mention.Uses (root : Text) (slot : HookSlot) (m : Mention) : Prop :=
  m.key? = some slot.key.toList ∧
    (slot.kind = .optionalCallback → m.Guarded root slot.key.toList)

/-- The key of a slot is used, and assigned if it is for the program to fill the slot. -/
def Mention.Provides (slot : HookSlot) (m : Mention) : Prop :=
  m.key? = some slot.key.toList ∧ (slot.kind ≠ .optionalCallback → m.Assigned)

/-- Codes that provide some slots, and use no others. -/
structure Serves (root : Text) (slots : List HookSlot) (codes : List Code) : Prop where
  namespaced : ∀ code ∈ codes, code.value Bindings.namespaceName = root
  known : ∀ m ∈ codes.flatMap Code.mentions, ∃ slot ∈ slots, m.Uses root slot
  served : ∀ slot ∈ slots, ∃ m ∈ codes.flatMap Code.mentions, m.Provides slot

namespace Serves

variable {root : Text} {slots more : List HookSlot} {codes others : List Code} {code : Code}

theorem nil (root : Text) : Serves root [] [] :=
  ⟨fun _ never => absurd never List.not_mem_nil, fun _ never => absurd never List.not_mem_nil,
    fun _ never => absurd never List.not_mem_nil⟩

/-- Codes that provide more slots together than each of them. -/
theorem append (h : Serves root slots codes) (h' : Serves root more others) :
    Serves root (slots ++ more) (codes ++ others) where
  namespaced code member := (List.mem_append.1 member).elim (h.namespaced code) (h'.namespaced code)
  known m member := by
    rw [List.flatMap_append] at member
    rcases List.mem_append.1 member with first | second
    · obtain ⟨slot, inside, known⟩ := h.known m first
      exact ⟨slot, List.mem_append_left _ inside, known⟩
    · obtain ⟨slot, inside, known⟩ := h'.known m second
      exact ⟨slot, List.mem_append_right _ inside, known⟩
  served slot member := by
    rw [List.flatMap_append]
    rcases List.mem_append.1 member with first | second
    · obtain ⟨m, inside, served⟩ := h.served slot first
      exact ⟨m, List.mem_append_left _ inside, served⟩
    · obtain ⟨m, inside, served⟩ := h'.served slot second
      exact ⟨m, List.mem_append_right _ inside, served⟩

/-- Codes each of which provides the same slots, and of which there is at least one. -/
theorem of_forall (some : codes ≠ []) (each : ∀ code ∈ codes, Serves root slots [code]) :
    Serves root slots codes where
  namespaced code member := (each code member).namespaced code List.mem_cons_self
  known m member := by
    obtain ⟨code, inside, here⟩ := List.mem_flatMap.1 member
    exact (each code inside).known m (by simpa using here)
  served slot member := by
    obtain ⟨code, inside⟩ := List.exists_mem_of_ne_nil codes some
    obtain ⟨m, here, served⟩ := (each code inside).served slot member
    exact ⟨m, List.mem_flatMap.2 ⟨code, inside, by simpa using here⟩, served⟩

/-- One code, by the places of its template. -/
theorem single {places : List Nat} (namespaced : code.value Bindings.namespaceName = root)
    (all : code.template.places = places)
    (known : ∀ i ∈ places, ∃ slot ∈ slots, (code.around i).Uses root slot)
    (served : ∀ slot ∈ slots, ∃ i ∈ places, (code.around i).Provides slot) :
    Serves root slots [code] := by
  subst all
  refine ⟨List.forall_mem_singleton.2 namespaced, ?_, fun slot member => ?_⟩
  · rw [List.flatMap_singleton, Code.mentions, List.forall_mem_map]
    exact known
  · obtain ⟨i, place, served⟩ := served slot member
    rw [List.flatMap_singleton]
    exact ⟨_, List.mem_map_of_mem place, served⟩

/-- Codes that provide a slot have the namespace and a dot in them. -/
theorem infix_text (h : Serves root slots codes) (some : slots ≠ []) :
    ∃ code ∈ codes, root ++ ['.'] <:+: code.text := by
  obtain ⟨slot, member⟩ := List.exists_mem_of_ne_nil slots some
  obtain ⟨m, mentioned, keyed, -⟩ := h.served slot member
  obtain ⟨code, inside, here⟩ := List.mem_flatMap.1 mentioned
  refine ⟨code, inside, ?_⟩
  rw [Code.text_eq here, h.namespaced code inside]
  simp only [Mention.key?] at keyed
  split at keyed
  · rename_i name dotted
    exact ⟨m.before, name, by simp [dotted]⟩
  · contradiction

end Serves

end HookGraft

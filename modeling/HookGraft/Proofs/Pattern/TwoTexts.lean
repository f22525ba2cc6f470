import HookGraft.Proofs.Pattern.Sketch
import HookGraft.Proofs.Rendering

/-!
# Two namespaces

What is rendered and what is located under two namespaces, when the bindings differ in nothing but
the namespace. A template speaks of the namespace only before a dot, so what it is rendered to is a
sketch whose gaps are filled with the text by which a patched program is known.

## Main definitions

* `Bindings.Alike`: bindings that differ in the namespace alone
* `Template.isDotted`: whether a dot stands behind each place for the namespace

## Main results

* `Template.render_alike`: what is rendered under two namespaces has one sketch
* `Locator.first_alike`, `Locator.replaceAll_alike`, `Locator.unique_alike`: what is located in two
  texts with one sketch
-/

namespace HookGraft

/-! ## Bindings -/

/-- Bindings that differ in the namespace alone. -/
structure Bindings.Alike (root root' : Text) (b b' : Bindings) : Prop where
  names : b.names = b'.names
  root : b.get? namespaceName = some root
  root' : b'.get? namespaceName = some root'
  others : ∀ name ≠ namespaceName, b.get? name = b'.get? name

namespace Bindings.Alike

variable {root root' : Text} {b b' : Bindings}

theorem seeded (root root' : Text) : Alike root root' (seeded root) (Bindings.seeded root') where
  names := rfl
  root := rfl
  root' := rfl
  others name other := by
    rw [Bindings.seeded, Bindings.seeded, get?_bind_of_ne other, get?_bind_of_ne other]

/-- Another name is bound to the same text in both. -/
theorem bind (h : Alike root root' b b') (name : String) (value : Text)
    (other : name ≠ namespaceName) :
    Alike root root' (b.bind name value) (b'.bind name value) where
  names := by rw [names_bind, names_bind, h.names]
  root := by rw [get?_bind_of_ne other.symm, h.root]
  root' := by rw [get?_bind_of_ne other.symm, h.root']
  others key different := by rw [get?_bind, get?_bind, h.others key different]

theorem textOf_eq (h : Alike root root' b b') {name : String} (other : name ≠ namespaceName) :
    b'.textOf name = b.textOf name := by
  rw [textOf, textOf, h.others name other]

end Bindings.Alike

/-! ## Templates -/

namespace Template

variable {root root' : Text} {b b' : Bindings} {t : Template} {segments : List Segment}

/-- Whether some pieces of a template begin with a dot. -/
def startsDotted : List Segment → Bool
  | .literal (c :: _) :: _ => c == '.'
  | _ => false

/-- Whether a dot stands behind each place for the namespace. -/
def isDotted : List Segment → Bool
  | [] => true
  | .literal _ :: rest => isDotted rest
  | .parameter name :: rest =>
    (name != Bindings.namespaceName || startsDotted rest) && isDotted rest

/-- What some pieces of a template are rendered to, with a gap for the namespace and its dot. -/
def sketch (value : String → Text) : List Segment → Sketch
  | [] => []
  | .literal text :: rest => Sketch.plain text ++ sketch value rest
  | .parameter name :: rest =>
    if name = Bindings.namespaceName then none :: (sketch value rest).tail
    else Sketch.plain (value name) ++ sketch value rest

theorem sketch_of_startsDotted {value : String → Text} (h : startsDotted segments = true) :
    sketch value segments = some '.' :: (sketch value segments).tail := by
  match segments, h with
  | .literal (c :: _) :: _, h =>
    obtain rfl := beq_iff_eq.1 h
    rfl

theorem fill_sketch {value value' : String → Text} (dotted : isDotted segments = true)
    (same : ∀ name ≠ Bindings.namespaceName, value name = value' name) :
    Sketch.fill (value' Bindings.namespaceName ++ ['.']) (sketch value segments) =
      segments.flatMap (Segment.fill value') := by
  induction segments with
  | nil => rfl
  | cons segment rest ih =>
    cases segment with
    | literal text => simp [sketch, Segment.fill, ih dotted]
    | parameter name =>
      obtain ⟨first, others⟩ := Bool.and_eq_true_iff.1 dotted
      rw [List.flatMap_cons, ← ih others, sketch]
      split
      · rename_i isNamespace
        subst isNamespace
        rw [bne_self_eq_false, Bool.false_or] at first
        conv_rhs => rw [sketch_of_startsDotted first]
        simp [Segment.fill]
      · rename_i other
        rw [Sketch.fill_append, Sketch.fill_plain, same name other]
        rfl

/-- What is rendered under two namespaces has one sketch. -/
theorem render_alike (h : b.Alike root root' b') (dotted : isDotted t.segments = true) :
    Except.Alike (Sketch.Fills (root ++ ['.']) (root' ++ ['.'])) (t.render b .raw)
      (t.render b' .raw) := by
  have step (segment : Segment) : Except.Alike (fun _ _ => True) (renderSegment b .raw segment)
      (renderSegment b' .raw segment) := by
    cases segment with
    | literal text => exact .ok trivial
    | parameter name =>
      simp only [renderSegment]
      by_cases isNamespace : name = Bindings.namespaceName
      · rw [isNamespace, h.root, h.root']
        exact .ok trivial
      · rw [← h.others name isNamespace]
        cases b.get? name with
        | none => exact .error name
        | some value => exact .ok trivial
  have both : Except.Alike (fun _ _ => True) (t.render b .raw) (t.render b' .raw) := by
    have pieces := Except.Alike.mapM fun segment (_ : segment ∈ t.segments) => step segment
    rw [render, render]
    generalize t.segments.mapM (renderSegment b .raw) = x,
      t.segments.mapM (renderSegment b' .raw) = x' at pieces
    cases pieces with
    | ok => exact .ok trivial
    | error name => exact .error _
  refine both.results.mono ?_
  rintro text text' ⟨-, rendered, rendered'⟩
  rw [eq_fill_of_render rendered, eq_fill_of_render rendered']
  refine ⟨sketch b.textOf t.segments, ?_, ?_⟩
  · rw [← Bindings.textOf_eq h.root]
    exact (fill_sketch dotted fun _ _ => rfl).symm
  · rw [← Bindings.textOf_eq h.root']
    exact (fill_sketch dotted fun name other => (h.textOf_eq other).symm).symm

end Template

/-- Signatures that do not speak of the namespace are compiled to the same under two of them. -/
theorem Signature.compile_alike {root root' : Text} {b b' : Bindings} {s : Signature}
    (h : b.Alike root root' b') (rule : String)
    (silent : Bindings.namespaceName ∉ s.template.parameters) :
    s.compile rule b' = s.compile rule b := by
  have same : s.template.render b' .escaped = s.template.render b .escaped :=
    Template.render_congr fun name member =>
      (h.others name fun isNamespace => silent (isNamespace ▸ member)).symm
  rw [compile, compile, same]

/-! ## Locators -/

namespace Locator

variable {part part' : Text} {T : Sketch} {l : Locator}

/-- The first fragment in two texts with one sketch, if it touches no gap. -/
theorem first_alike (noLook : l.regex.hasLook = false) (proper : part ≠ []) (proper' : part' ≠ [])
    (avoids : ∀ m ∈ l.regex.first? (Sketch.fill part T), m.whole.Avoids part)
    (avoids' : ∀ m ∈ l.regex.first? (Sketch.fill part' T), m.whole.Avoids part') :
    Except.Alike (Match.Parallel part part') (l.first (Sketch.fill part T))
      (l.first (Sketch.fill part' T)) := by
  have same := Sketch.found (B := []) (A := T) noLook proper proper' (Nat.le_refl _)
    (Nat.le_refl _) rfl rfl avoids avoids'
  have search (part : Text) : l.regex.automaton.firstFrom?
      (l.regex.automaton.fuel (Sketch.place part [] T).after) (Sketch.place part [] T) =
        l.regex.first? (Sketch.fill part T) := rfl
  rw [search, search] at same
  rw [first, first]
  generalize l.regex.first? (Sketch.fill part T) = o,
    l.regex.first? (Sketch.fill part' T) = o' at same
  cases same with
  | none => exact .error _
  | some S t A twins => exact .ok twins.parallel

section All

variable (noLook : l.regex.hasLook = false) (reads : l.regex.canReadNothing = false)
  (proper : part ≠ []) (proper' : part' ≠ [])
  (avoids : ∀ m ∈ l.regex.allMatches (Sketch.fill part T), m.whole.Avoids part)
  (avoids' : ∀ m ∈ l.regex.allMatches (Sketch.fill part' T), m.whole.Avoids part')

include noLook reads proper proper' avoids avoids'

theorem allMatches_scanned : Sketch.Scanned part part' [] T
    (l.regex.allMatches (Sketch.fill part T)) (l.regex.allMatches (Sketch.fill part' T)) :=
  Sketch.scanned noLook proper proper' (Regex.allMatches_scans reads)
    (Regex.allMatches_scans reads) avoids avoids'

/-- Replacing all fragments in two texts with one sketch, if they touch no gap. -/
theorem replaceAll_alike {render render' : Match → Except PatchError Text}
    (alike : ∀ m m', m.Parallel part part' m' →
      Except.Alike (Sketch.Fills part part') (render m) (render' m')) :
    Except.Alike (fun out out' => Sketch.Fills part part' out.1 out'.1 ∧ out.2 = out'.2)
      (l.replaceAll (Sketch.fill part T) render) (l.replaceAll (Sketch.fill part' T) render') := by
  have scanned := allMatches_scanned noLook reads proper proper' avoids avoids'
  exact (scanned.replaceMatches alike).andThen fun new new' fills =>
    .ok ⟨fills, scanned.length_eq⟩

/-- The only fragment that is accepted in two texts with one sketch, if the fragments touch no gap
and each is accepted in both texts or in none. -/
theorem unique_alike {accept : Match → Bool}
    (agree : ∀ m ∈ l.regex.allMatches (Sketch.fill part T),
      ∀ m' ∈ l.regex.allMatches (Sketch.fill part' T), ∀ B t A,
        Sketch.Twins part part' B t A m m' → accept m = accept m') :
    Except.Alike (Match.Parallel part part') (l.unique (Sketch.fill part T) accept)
      (l.unique (Sketch.fill part' T) accept) := by
  have accepted := (allMatches_scanned noLook reads proper proper' avoids avoids').filter agree
  rw [unique, unique]
  generalize (l.regex.allMatches (Sketch.fill part T)).filter accept = ms,
    (l.regex.allMatches (Sketch.fill part' T)).filter accept = ms' at accepted
  cases accepted with
  | nil => exact .error _
  | cons first rest =>
    cases rest with
    | nil => exact .ok first
    | cons second others =>
      simp only [List.length_cons, others.length_eq]
      exact .error _

end All

end Locator

end HookGraft

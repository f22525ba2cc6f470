import HookGraft.Proofs.Pipeline.Statistics
import HookGraft.Proofs.Rule.TwoNamespaces

/-!
# Runs under two namespaces

A rule searches the text that the rules before it have left, with the code that they have put in.
So what is found can depend on how long the namespace is, and on what it spells. It does not as long
as nothing that a rule looks at overlaps an occurrence of the namespace with its dot.

## Main definitions

* `Clear`: a run in which nothing that a rule looks at overlaps an occurrence of a text
* `isClear`: the same by evaluation
* `Settings.sighted`: the rules of the standard pipeline, with what they look at

## Main results

* `applyRules_alike`: rules that do the same under two namespaces, one after the other
* `Settings.patch_alike`: patching under two namespaces
* `Settings.patch_differs`: a fragment that is found under one namespace and not under a longer one
-/

namespace HookGraft

open Discovery

/-- What a rule looks at, in a text and for bindings. -/
abbrev Sights := Text → Bindings → List Extent

/-- A run of rules, from a text and bindings, in which nothing that a rule looks at overlaps an
occurrence of `part` in the text that the rule searches. -/
def Clear (part : Text) : List (Rule × Sights) → Text → Bindings → Prop
  | [], _, _ => True
  | (rule, sights) :: rest, text, b =>
    (∀ e ∈ sights text b, e.Avoids part) ∧
      ∀ o b', (rule.apply text).on b = (.ok o, b') → Clear part rest o.text b'

/-- Rules that do the same under two namespaces do so one after the other. -/
theorem applyRules_alike {root root' : Text} {sighted : List (Rule × Sights)}
    (unmoved : ∀ entry ∈ sighted, entry.1.Unmoved entry.2) {T : Sketch} {b b' : Bindings}
    (alike : b.Alike root root' b')
    (clear : Clear (root ++ ['.']) sighted (T.fill (root ++ ['.'])) b)
    (clear' : Clear (root' ++ ['.']) sighted (T.fill (root' ++ ['.'])) b') (stats stats' : StatsTable) :
    Except.Alike (fun out out' => out.2.1.Alike root root' out'.2.1 ∧ out.2.2 = out'.2.2)
      (applyRules (sighted.map Prod.fst) (T.fill (root ++ ['.'])) b stats).1
      (applyRules (sighted.map Prod.fst) (T.fill (root' ++ ['.'])) b' stats').1 := by
  induction sighted generalizing T b b' stats stats' with
  | nil => exact .ok ⟨alike, rfl⟩
  | cons entry rest ih =>
    obtain ⟨first, others⟩ := List.forall_mem_cons.1 unmoved
    rw [List.map_cons]
    cases first root root' T b b' alike clear.1 clear'.1 with
    | fail failed failed' =>
      rw [applyRules_cons_of_error failed, applyRules_cons_of_error failed']
      exact .error _
    | succeed done done' related =>
      obtain ⟨⟨T', text, text'⟩, sites, bindings⟩ := related
      have later := clear.2 _ _ done
      have later' := clear'.2 _ _ done'
      rw [text] at later
      rw [text'] at later'
      rw [applyRules_cons_of_ok done, applyRules_cons_of_ok done', Prod.map_fst, Prod.map_fst,
        text, text', ← sites]
      refine (ih others bindings later later' _ _).map ?_
      rintro ⟨out, c, reports⟩ ⟨out', c', _⟩ ⟨left, rfl⟩
      exact ⟨left, rfl⟩

/-- Two runs that are not refused do the same if their rules do. -/
theorem Pipeline.run_alike {p p' : Pipeline} {raw : Text} (sighted : List (Rule × Sights))
    (unmoved : ∀ entry ∈ sighted, entry.1.Unmoved entry.2)
    (rules : p.rules = sighted.map Prod.fst) (rules' : p'.rules = sighted.map Prod.fst)
    (valid : p.validate = .ok ()) (valid' : p'.validate = .ok ())
    (unmarked : p.hooks.marker.hasInfix raw = false)
    (unmarked' : p'.hooks.marker.hasInfix raw = false)
    (clear : Clear p.hooks.marker sighted raw (Bindings.seeded p.hooks.root.toList))
    (clear' : Clear p'.hooks.marker sighted raw (Bindings.seeded p'.hooks.root.toList)) :
    Except.Alike (fun o o' => o.report.rules = o'.report.rules ∧ o.report.identifiers.Alike
      p.hooks.root.toList p'.hooks.root.toList o'.report.identifiers) (p.run raw).1
      (p'.run raw).1 := by
  have whole (part : Text) : (Sketch.plain raw).fill part = raw := Sketch.fill_plain
  have alike := applyRules_alike unmoved (T := Sketch.plain raw)
    (Bindings.Alike.seeded p.hooks.root.toList p'.hooks.root.toList) (by rwa [whole])
    (by rwa [whole]) p.stats p'.stats
  rw [whole, whole] at alike
  rw [run_eq_applyRules valid unmarked, run_eq_applyRules valid' unmarked', Prod.map_fst,
    Prod.map_fst, rules, rules']
  exact alike.map fun _ _ ⟨identifiers, reports⟩ => ⟨reports, identifiers⟩

/-! ## Clear runs by evaluation -/

/-- Whether each occurrence of `part`, in a text that begins at `place`, ends before `start` or
begins behind `stop`. -/
def Text.keepsOff (part : Text) (start stop : Nat) : Nat → Text → Bool
  | _, [] => true
  | place, c :: rest =>
    (!part.isPrefixOf (c :: rest) || stop ≤ place || place + part.length ≤ start) &&
      keepsOff part start stop (place + 1) rest

theorem Text.of_keepsOff {part : Text} (proper : part ≠ []) {start stop place : Nat}
    {before after : Text} (h : keepsOff part start stop place (before ++ part ++ after) = true) :
    stop ≤ place + before.length ∨ place + before.length + part.length ≤ start := by
  induction before generalizing place with
  | nil =>
    obtain ⟨c, rest, rfl⟩ := List.exists_cons_of_ne_nil proper
    have here := (Bool.and_eq_true_iff.1 h).1
    have occurs : (c :: rest).isPrefixOf (c :: (rest ++ after)) = true :=
      List.isPrefixOf_iff_prefix.2 (List.prefix_append (c :: rest) after)
    simpa [occurs] using here
  | cons c before ih =>
    have later := ih (Bool.and_eq_true_iff.1 h).2
    rw [List.length_cons]
    omega

/-- Whether no occurrence of a text overlaps an extent. -/
def Extent.avoids (part : Text) (e : Extent) : Bool :=
  Text.keepsOff part e.start.before.length e.stop.before.length 0
    (e.start.before.reverse ++ e.start.after)

theorem Extent.Avoids.of_avoids {part : Text} (proper : part ≠ []) {e : Extent}
    (h : e.avoids part = true) : e.Avoids part := by
  intro before after whole
  rw [avoids, whole] at h
  have := Text.of_keepsOff proper h
  omega

/-- Whether nothing that a rule looks at in a run overlaps an occurrence of a text. -/
def isClear (part : Text) : List (Rule × Sights) → Text → Bindings → Bool
  | [], _, _ => true
  | (rule, sights) :: rest, text, b =>
    (sights text b).all (Extent.avoids part) &&
      match (rule.apply text).on b with
      | (.ok o, b') => isClear part rest o.text b'
      | (.error _, _) => true

theorem Clear.of_isClear {part : Text} (proper : part ≠ []) {sighted : List (Rule × Sights)}
    {text : Text} {b : Bindings} (h : isClear part sighted text b = true) :
    Clear part sighted text b := by
  induction sighted generalizing text b with
  | nil => trivial
  | cons entry rest ih =>
    obtain ⟨here, later⟩ := Bool.and_eq_true_iff.1 h
    refine ⟨fun e member => .of_avoids proper (List.all_eq_true.1 here e member), ?_⟩
    intro o b' done
    rw [done] at later
    exact ih later

/-! ## The standard pipeline -/

namespace Settings

variable {s s' : Settings} {raw : Text}

/-- The rules of the standard pipeline, with what they look at. -/
def sighted (s : Settings) : List (Rule × Sights) := [
  (MapObject.rule s.anchorKey, MapObject.sights s.anchorKey),
  (MapEncoder.rule, MapEncoder.sights),
  (ResetState.ruleFor s.selectionCapabilities s.updateCapabilities, ResetState.sights),
  (UndoHistory.rule, UndoHistory.sights),
  (ChatListener.rule, ChatListener.sights),
  (ColourPicker.rule s.colourInputId, ColourPicker.sights)]

/-- Each rule of the standard pipeline does the same under two namespaces. -/
theorem sighted_unmoved (s : Settings) : ∀ entry ∈ s.sighted, entry.1.Unmoved entry.2 := by
  simp only [sighted, List.forall_mem_cons]
  refine ⟨?_, ?_, ?_, ?_, ?_, ?_, nofun⟩
  · exact MapObject.rule_unmoved s.anchorKey
  · exact MapEncoder.rule_unmoved
  · exact ResetState.rule_unmoved s.selectionCapabilities s.updateCapabilities
  · exact UndoHistory.rule_unmoved
  · exact ChatListener.rule_unmoved
  · exact ColourPicker.rule_unmoved s.colourInputId

/-- A run of the standard pipeline in which nothing that a rule looks at overlaps an occurrence of
the marker. -/
def ClearRun (s : Settings) (raw : Text) : Prop :=
  Clear s.hookNamespace.marker s.sighted raw (Bindings.seeded s.hookRoot.toList)

/-- Two settings in which nothing is wrong and that differ in the namespace alone, and a text that
holds neither marker. If in neither run anything that a rule looks at overlaps an occurrence of the
marker, both runs fail with the same error, or both succeed with the same reports of the rules and
the same identifiers for all names but that of the namespace. -/
theorem patch_alike (valid : s.validate = .ok ()) (valid' : s'.validate = .ok ())
    (same : s' = { s with hookRoot := s'.hookRoot }) (fresh : ¬ s.hookNamespace.marker <:+: raw)
    (fresh' : ¬ s'.hookNamespace.marker <:+: raw) (clear : s.ClearRun raw)
    (clear' : s'.ClearRun raw) :
    (∃ e, patch raw s = .error e ∧ patch raw s' = .error e) ∨
      ∃ o o', patch raw s = .ok o ∧ patch raw s' = .ok o' ∧ o.report.rules = o'.report.rules ∧
        o.report.identifiers.names = o'.report.identifiers.names ∧
        ∀ name ≠ Bindings.namespaceName,
          o.report.identifiers.get? name = o'.report.identifiers.get? name := by
  have rules : s'.pipeline.rules = s.sighted.map Prod.fst := by
    rw [same]
    rfl
  have sights : s'.sighted = s.sighted := by
    rw [same]
    rfl
  have alike := Pipeline.run_alike s.sighted s.sighted_unmoved rfl rules
    (valid_of_validate valid).validate (valid_of_validate valid').validate
    (Bool.eq_false_iff.2 (mt Text.hasInfix_iff.1 fresh))
    (Bool.eq_false_iff.2 (mt Text.hasInfix_iff.1 fresh')) clear (sights ▸ clear')
  rw [Pipeline.patch_eq valid, Pipeline.patch_eq valid']
  generalize (s.pipeline.run raw).1 = x, (s'.pipeline.run raw).1 = x' at alike
  cases alike with
  | error e => exact .inl ⟨e, rfl, rfl⟩
  | ok related =>
    exact .inr ⟨_, _, rfl, rfl, related.1, related.2.names, related.2.others⟩

/-- A text that is not refused holds no marker. -/
theorem fresh_of_patch (valid : s.validate = .ok ())
    (accepted : ∀ marker, patch raw s ≠ .error (.alreadyPatched marker)) :
    ¬ s.hookNamespace.marker <:+: raw := fun marked => by
  have refused := Pipeline.run_of_marked (valid_of_validate valid).validate
    (Text.hasInfix_iff.2 marked)
  exact accepted s.hookNamespace.marker ((Pipeline.patch_eq valid raw).trans
    (congrArg Prod.fst refused))

end Settings

/-! ## A sample -/

namespace Sample

/-- Settings with another namespace. -/
def renamed : Settings := { settings with hookRoot := "window.ext" }

/-- A program without a chat listener. The routine that saves a snapshot assigns the map first. -/
def assigning : Text :=
  [ -- the undo history
    "function k3Z()\x7babc[1]=a;abc[5]--;\x7d", "abc[7][a]=Z[3](JSON[T](abc[1]))\n",
    -- the reset routine
    "function j0Z()\x7b", "z5i[1]=-1;z5i[2]=-1;z5i[3]=-1;",
    "p4Z();v4Z();B4Z(true);", "M4Z();y0Z();I6s();\x7d\n",
    -- the map and its encoder
    "\x7brxid:abc[1]\x7d;", "function Q()\x7b\x7d", "abc[1]=Q[T]();\n"].flatMap String.toList

/-- The default namespace. -/
def usual : Settings := { settings with hookRoot := "window.kklee" }

/-- A longer one. -/
def long : Settings := { settings with hookRoot := "window.extension.hooks.editor" }

theorem stoppedIn?_patch {s : Settings} (known : s = usual ∨ s = long) :
    stoppedIn? (patch assigning s) =
      some (if s = usual then ChatListener.name else UndoHistory.name) := by
  suffices general : ∀ raw, raw = assigning → s.validate = .ok () → stoppedIn? (patch raw s) =
      some (if s = usual then ChatListener.name else UndoHistory.name) by
    refine general assigning rfl ?_
    rcases known with rfl | rfl <;> decide +kernel
  intro raw isSource valid
  rw [Pipeline.patch_eq valid]
  simp only [Pipeline.run, Settings.pipeline, applyRules, MapObject.rule, MapEncoder.rule,
    ResetState.ruleFor, UndoHistory.rule, ChatListener.rule, ColourPicker.rule, MapObject.apply,
    MapEncoder.apply, ResetState.apply, UndoHistory.apply, ChatListener.apply, ColourPicker.apply,
    Signature.compile, Locator.first, Locator.unique, Locator.replaceAll,
    Regex.ofText_eq_evaluate, Regex.first?_eq_evaluate, Regex.allMatches_eq_evaluate]
  clear valid
  subst isSource
  rcases known with rfl | rfl
  · decide +kernel
  · decide +kernel

theorem isClear_source {s : Settings} (known : s = settings ∨ s = renamed) :
    isClear s.hookNamespace.marker s.sighted source (.seeded s.hookRoot.toList) = true := by
  suffices general : ∀ raw, raw = source →
      isClear s.hookNamespace.marker s.sighted raw (.seeded s.hookRoot.toList) = true from
    general source rfl
  intro raw isSource
  simp only [isClear, Settings.sighted, MapObject.sights, MapEncoder.sights, ResetState.sights,
    UndoHistory.sights, ChatListener.sights, ColourPicker.sights, Signature.firstSight,
    Locator.firstSight, Locator.allSights, MapObject.rule, MapEncoder.rule, ResetState.ruleFor,
    UndoHistory.rule, ChatListener.rule, ColourPicker.rule, MapObject.apply, MapEncoder.apply,
    ResetState.apply, UndoHistory.apply, ChatListener.apply, ColourPicker.apply,
    Signature.compile, Locator.first, Locator.unique, Locator.replaceAll,
    Regex.ofText_eq_evaluate, Regex.first?_eq_evaluate, Regex.allMatches_eq_evaluate]
  subst isSource
  rcases known with rfl | rfl
  · decide +kernel
  · decide +kernel

theorem clearRun {s : Settings} (known : s = settings ∨ s = renamed) : s.ClearRun source :=
  .of_isClear (marker_ne_nil _) (isClear_source known)

end Sample

namespace Settings

/-- The sample is patched under two namespaces, with the same reports and identifiers. -/
theorem patch_alike_of_sample :
    Sample.settings.validate = .ok () ∧ Sample.renamed.validate = .ok () ∧
      ¬ Sample.settings.hookNamespace.marker <:+: Sample.source ∧
      ¬ Sample.renamed.hookNamespace.marker <:+: Sample.source ∧
      Sample.settings.ClearRun Sample.source ∧ Sample.renamed.ClearRun Sample.source ∧
      ∃ o o', patch Sample.source Sample.settings = .ok o ∧
        patch Sample.source Sample.renamed = .ok o' ∧ o.report.rules = o'.report.rules ∧
        o.report.identifiers.names = o'.report.identifiers.names ∧
        ∀ name ≠ Bindings.namespaceName,
          o.report.identifiers.get? name = o'.report.identifiers.get? name := by
  have valid : Sample.settings.validate = .ok () := by rfl
  have valid' : Sample.renamed.validate = .ok () := by rfl
  obtain ⟨o, done⟩ := Sample.patched
  have fresh : ¬ Sample.settings.hookNamespace.marker <:+: Sample.source :=
    fresh_of_patch valid fun marker refused => nomatch done.symm.trans refused
  have fresh' : ¬ Sample.renamed.hookNamespace.marker <:+: Sample.source := fun marked =>
    fresh (List.IsInfix.trans ⟨"windo".toList, "ext.".toList, by decide⟩ marked)
  have clear := Sample.clearRun (.inl rfl)
  have clear' := Sample.clearRun (.inr rfl)
  refine ⟨valid, valid', fresh, fresh', clear, clear', ?_⟩
  rcases patch_alike valid valid' rfl fresh fresh' clear clear' with ⟨e, failed, -⟩ | both
  · exact nomatch done.symm.trans failed
  · exact both

/-- Under the default namespace all but the chat listener is found in the sample, under a longer one
the undo history is not: the code behind the assignment in its routine has become too long. -/
theorem patch_differs :
    Sample.usual.validate = .ok () ∧ Sample.long.validate = .ok () ∧
      Sample.long = { Sample.usual with hookRoot := Sample.long.hookRoot } ∧
      ¬ Sample.usual.hookNamespace.marker <:+: Sample.assigning ∧
      ¬ Sample.long.hookNamespace.marker <:+: Sample.assigning ∧
      (∃ pattern, patch Sample.assigning Sample.usual =
        .error (.patternNotFound ChatListener.name pattern)) ∧
      (∃ pattern, patch Sample.assigning Sample.long =
        .error (.patternNotFound UndoHistory.name pattern)) ∧
      ChatListener.name ≠ UndoHistory.name := by
  have valid : Sample.usual.validate = .ok () := by rfl
  have valid' : Sample.long.validate = .ok () := by rfl
  obtain ⟨pattern, stopped⟩ := Sample.stoppedIn?_eq_some (Sample.stoppedIn?_patch (.inl rfl))
  obtain ⟨pattern', stopped'⟩ := Sample.stoppedIn?_eq_some (Sample.stoppedIn?_patch (.inr rfl))
  have fresh := fresh_of_patch valid fun marker refused => nomatch stopped.symm.trans refused
  have fresh' := fresh_of_patch valid' fun marker refused => nomatch stopped'.symm.trans refused
  exact ⟨valid, valid', rfl, fresh, fresh', ⟨pattern, stopped⟩, ⟨pattern', stopped'⟩, by decide⟩

end Settings

end HookGraft

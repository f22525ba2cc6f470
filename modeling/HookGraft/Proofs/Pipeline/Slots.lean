import HookGraft.Proofs.Pipeline.Identifiers
import HookGraft.Proofs.Rule.Grafting
import HookGraft.Proofs.Slots

/-!
# The slots of the injected code

Each rule of the standard pipeline puts in codes that provide the slots it is for, and all slots of
the namespace are provided by one rule or another. No two slots have the same key, so whatever the
code does with a key, it does to the slot that has this key.

## Main definitions

* `Contribution`: a rule with the codes that it puts in and the slots that they are for
* `Settings.contributions`: the rules of the standard pipeline, with what each of them puts in
* `Grafting`: a chain of rules that succeed, with the codes that they put into the text

## Main results

* `Executes.exists_grafting`: a chain of rules puts in what its rules put in
* `Grafting.serves`: what a chain of rules puts in provides the slots that its rules are for
* `Settings.slots_agree`: the slots that are listed are those that the injected code speaks of
-/

namespace HookGraft

open HookNamespace

/-- What a rule puts into a text: the codes, which depend on the bindings that the rule leaves, and
the slots that they are for. -/
structure Contribution where
  rule : Rule
  puts : Bindings → List Code → Prop
  slots : List HookSlot

/-- Rules that succeed one after the other, with the codes that they put into the text. -/
inductive Grafting :
    List Contribution → Text → Bindings → List Code → Text → Bindings → Prop where
  | nil (text : Text) (b : Bindings) : Grafting [] text b [] text b
  | cons {c : Contribution} {rest : List Contribution} {text out : Text} {b b' b'' : Bindings}
      {o : RuleOutcome} {codes more : List Code} : (c.rule.apply text).on b = (.ok o, b') →
      c.puts b' codes → Grafted codes text o.text → Grafting rest o.text b' more out b'' →
      Grafting (c :: rest) text b (codes ++ more) out b''

/-- A standard rule that puts in such codes whenever it succeeds, and codes that provide the slots
as long as the namespace is bound. -/
structure Contribution.IsMade (c : Contribution) : Prop where
  standard : c.rule.IsStandard
  grafts : ∀ text b o b', (c.rule.apply text).on b = (.ok o, b') →
    ∃ codes, c.puts b' codes ∧ Grafted codes text o.text
  serves : ∀ root b codes, b.get? Bindings.namespaceName = some root → c.puts b codes →
    Serves root c.slots codes

variable {text out : Text} {b b' : Bindings} {cs : List Contribution}

/-- A chain of rules puts in what its rules put in, one after the other. -/
theorem Executes.exists_grafting (made : ∀ c ∈ cs, c.IsMade)
    (run : Executes (cs.map Contribution.rule) text b out b') :
    ∃ codes, Grafting cs text b codes out b' := by
  induction cs generalizing text b with
  | nil =>
    cases run
    exact ⟨[], .nil _ _⟩
  | cons c rest ih =>
    obtain ⟨first, others⟩ := List.forall_mem_cons.1 made
    cases run with
    | cons here later =>
      obtain ⟨codes, puts, grafted⟩ := first.grafts _ _ _ _ here
      obtain ⟨more, grafting⟩ := ih others later
      exact ⟨codes ++ more, .cons here puts grafted grafting⟩

/-- What a chain of rules puts in provides the slots that its rules are for. -/
theorem Grafting.serves {root : Text} {codes : List Code} (grafting : Grafting cs text b codes out b')
    (made : ∀ c ∈ cs, c.IsMade) (bound : b.get? Bindings.namespaceName = some root) :
    Serves root (cs.flatMap Contribution.slots) codes := by
  induction grafting with
  | nil => exact .nil root
  | cons here puts _ _ ih =>
    obtain ⟨first, others⟩ := List.forall_mem_cons.1 made
    have kept := (first.standard.keeps_namespace here).trans bound
    exact (first.serves root _ _ kept puts).append (ih others kept)

/-! ## Capabilities -/

/-- An identifier is made of characters that keys are made of. -/
theorem all_isKeyChar_of_isIdentifier {name : Text} (identifier : isIdentifier name = true) :
    name.all Mention.isKeyChar = true := by
  refine List.all_eq_true.2 fun c member => ?_
  rw [Mention.isKeyChar, MapObject.alphanum_of_isIdentifier identifier member, Bool.true_or]

/-! ## The standard pipeline -/

namespace Settings

variable {s : Settings}

/-- The rules of the standard pipeline, with what each of them puts in. -/
def contributions (s : Settings) : List Contribution := [
  ⟨MapObject.rule s.anchorKey, MapObject.Puts, mapSlots.take 2⟩,
  ⟨MapEncoder.rule, MapEncoder.Puts, mapSlots.drop 2⟩,
  ⟨ResetState.ruleFor s.selectionCapabilities s.updateCapabilities,
    ResetState.Puts s.selectionCapabilities s.updateCapabilities,
    s.updateCapabilities.flatMap updateSlots ++ s.selectionCapabilities.flatMap selectionSlots⟩,
  ⟨UndoHistory.rule, UndoHistory.Puts, editorSlots.take 1⟩,
  ⟨ChatListener.rule, ChatListener.Puts, []⟩,
  ⟨ColourPicker.rule s.colourInputId, ColourPicker.Puts s.colourInputId, editorSlots.drop 1⟩]

theorem rules_contributions (s : Settings) :
    s.contributions.map Contribution.rule = s.pipeline.rules := rfl

theorem slots_eq_contributions (s : Settings) :
    s.hookNamespace.slots = s.contributions.flatMap Contribution.slots := by
  simp [slots, contributions, hookNamespace, mapSlots, editorSlots]

namespace Valid

theorem keyChars (valid : s.Valid) : ∀ capability ∈ s.updateCapabilities ++ s.selectionCapabilities,
    capability.toList.all Mention.isKeyChar = true := by
  intro capability member
  refine all_isKeyChar_of_isIdentifier ?_
  rcases List.mem_append.1 member with update | selection
  · exact (checkNames_eq_ok valid.updates).1 capability update
  · exact (checkNames_eq_ok valid.selections).1 capability selection

/-- Each rule of the standard pipeline puts in codes for its own slots. -/
theorem isMade (valid : s.Valid) : ∀ c ∈ s.contributions, c.IsMade := by
  have standard : ∀ c ∈ s.contributions, c.rule.IsStandard := fun c member =>
    valid.isStandard c.rule (List.mem_map_of_mem member)
  have grafts : ∀ c ∈ s.contributions, ∀ text b o b', (c.rule.apply text).on b = (.ok o, b') →
      ∃ codes, c.puts b' codes ∧ Grafted codes text o.text := by
    refine List.forall_mem_cons.2 ⟨fun _ _ _ _ => MapObject.apply_grafts, ?_⟩
    refine List.forall_mem_cons.2 ⟨fun _ _ _ _ => MapEncoder.apply_grafts, ?_⟩
    refine List.forall_mem_cons.2
      ⟨fun _ _ _ _ => ResetState.apply_grafts valid.three valid.six, ?_⟩
    refine List.forall_mem_cons.2 ⟨fun _ _ _ _ => UndoHistory.apply_grafts, ?_⟩
    refine List.forall_mem_cons.2 ⟨fun _ _ _ _ => ChatListener.apply_grafts, ?_⟩
    exact List.forall_mem_singleton.2 fun _ _ _ _ => ColourPicker.apply_grafts
  have serves : ∀ c ∈ s.contributions, ∀ root b codes,
      b.get? Bindings.namespaceName = some root → c.puts b codes → Serves root c.slots codes := by
    refine List.forall_mem_cons.2 ⟨fun _ _ _ bound puts => MapObject.Puts.serves puts bound, ?_⟩
    refine List.forall_mem_cons.2 ⟨fun _ _ _ bound puts => MapEncoder.Puts.serves puts bound, ?_⟩
    refine List.forall_mem_cons.2
      ⟨fun _ _ _ bound puts => ResetState.Puts.serves puts valid.keyChars bound, ?_⟩
    refine List.forall_mem_cons.2 ⟨fun _ _ _ bound puts => UndoHistory.Puts.serves puts bound, ?_⟩
    refine List.forall_mem_cons.2
      ⟨fun root b _ _ (puts : ChatListener.Puts b _) => puts.serves root, ?_⟩
    exact List.forall_mem_singleton.2 fun _ _ _ bound puts => ColourPicker.Puts.serves puts bound
  exact fun c member => ⟨standard c member, grafts c member, serves c member⟩

theorem nodup_keys (valid : s.Valid) : (s.hookNamespace.slots.map HookSlot.key).Nodup :=
  HookNamespace.nodup_keys valid.nodup_updates valid.nodup_selections

end Valid

end Settings

/-! ## Keys -/

namespace Serves

variable {root : Text} {slots : List HookSlot} {codes : List Code}

/-- The keys that stand in the codes are those of the slots. -/
theorem keyed_iff (serves : Serves root slots codes) (key : String) :
    (∃ m ∈ codes.flatMap Code.mentions, m.key? = some key.toList) ↔
      key ∈ slots.map HookSlot.key := by
  constructor
  · rintro ⟨m, mentioned, keyed⟩
    obtain ⟨slot, member, keyed', -⟩ := serves.known m mentioned
    have same : key = slot.key :=
      String.toList_injective (Option.some.inj (keyed.symm.trans keyed'))
    exact same ▸ List.mem_map_of_mem member
  · intro member
    obtain ⟨slot, inside, rfl⟩ := List.mem_map.1 member
    obtain ⟨m, mentioned, keyed, -⟩ := serves.served slot inside
    exact ⟨m, mentioned, keyed⟩

/-- If no two slots have the same key, what is done with the key of a slot is what the kind of the
slot asks for. -/
theorem guarded (serves : Serves root slots codes) (distinct : (slots.map HookSlot.key).Nodup)
    {slot : HookSlot} (member : slot ∈ slots) (optional : slot.kind = .optionalCallback)
    {m : Mention} (mentioned : m ∈ codes.flatMap Code.mentions)
    (keyed : m.key? = some slot.key.toList) : m.Guarded root slot.key.toList := by
  obtain ⟨other, inside, keyed', guarded⟩ := serves.known m mentioned
  have same : slot.key = other.key :=
    String.toList_injective (Option.some.inj (keyed.symm.trans keyed'))
  obtain rfl := List.inj_on_of_nodup_map distinct member inside same
  exact guarded optional

end Serves

namespace Settings

variable {s : Settings}

/-- Settings in which nothing is wrong list slots with different keys. Wherever the rules of the
standard pipeline succeed, each of them puts in its codes, and the keys that stand behind the
namespace in these codes are those of the slots. A slot that the host may leave out is called under a
guard and never assigned; all other slots are assigned. -/
theorem slots_agree (checked : s.validate = .ok ()) :
    (s.hookNamespace.slots.map HookSlot.key).Nodup ∧
    Pipeline.standard s = .ok s.pipeline ∧
    s.contributions.map Contribution.rule = s.pipeline.rules ∧
    (∀ raw o, patch raw s = .ok o → ∃ text, o.text = s.pipeline.finish text ∧
      Executes s.pipeline.rules raw (Bindings.seeded s.hookRoot.toList) text
        o.report.identifiers) ∧
    ∀ raw text b,
      Executes s.pipeline.rules raw (Bindings.seeded s.hookRoot.toList) text b →
      (∃ codes, Grafting s.contributions raw (Bindings.seeded s.hookRoot.toList) codes text b) ∧
      ∀ codes, Grafting s.contributions raw (Bindings.seeded s.hookRoot.toList) codes text b →
        (∀ code ∈ codes, code.value "ns" = s.hookRoot.toList) ∧
        (∀ m ∈ codes.flatMap Code.mentions, ∃ key : String, m.key? = some key.toList) ∧
        (∀ key : String, (∃ m ∈ codes.flatMap Code.mentions, m.key? = some key.toList) ↔
          key ∈ s.hookNamespace.slots.map HookSlot.key) ∧
        (∀ slot ∈ s.hookNamespace.slots, slot.kind = .optionalCallback →
          ∀ m ∈ codes.flatMap Code.mentions, m.key? = some slot.key.toList →
            m.Guarded s.hookRoot.toList slot.key.toList ∧ ¬ m.Assigned) ∧
        ∀ slot ∈ s.hookNamespace.slots, slot.kind ≠ .optionalCallback →
          ∃ m ∈ codes.flatMap Code.mentions, m.key? = some slot.key.toList ∧ m.Assigned := by
  have valid := valid_of_validate checked
  refine ⟨valid.nodup_keys, Pipeline.standard_eq_ok checked, rules_contributions s,
    fun raw o done => ?_, fun raw text b run => ⟨run.exists_grafting valid.isMade, ?_⟩⟩
  · rw [Pipeline.patch_eq checked] at done
    exact Pipeline.executes_of_run done
  · intro codes grafting
    have serves := grafting.serves valid.isMade Bindings.get?_bind_self
    rw [← slots_eq_contributions] at serves
    refine ⟨serves.namespaced, fun m mentioned => ?_, serves.keyed_iff, ?_, ?_⟩
    · obtain ⟨slot, -, keyed, -⟩ := serves.known m mentioned
      exact ⟨slot.key, keyed⟩
    · intro slot member optional m mentioned keyed
      have guarded := serves.guarded valid.nodup_keys member optional mentioned keyed
      exact ⟨guarded, guarded.not_assigned⟩
    · intro slot member other
      obtain ⟨m, mentioned, keyed, assigned⟩ := serves.served slot member
      exact ⟨m, mentioned, keyed, assigned other⟩

/-- The keys that stand in the code put into the sample, with the first of those that the host may
leave out and the first of those that are assigned. -/
theorem slots_agree_of_sample :
    Sample.settings.validate = .ok () ∧ ∃ o text codes,
      patch Sample.source Sample.settings = .ok o ∧
      Executes Sample.settings.pipeline.rules Sample.source (Bindings.seeded ['w']) text
        o.report.identifiers ∧
      Grafting Sample.settings.contributions Sample.source (Bindings.seeded ['w']) codes text
        o.report.identifiers ∧
      (∀ key : String, (∃ m ∈ codes.flatMap Code.mentions, m.key? = some key.toList) ↔ key ∈
        ["mapObject", "afterNewMapObject", "mapEncoder", "updateA", "afterUpdateA", "updateB",
          "afterUpdateB", "updateC", "afterUpdateC", "updateD", "afterUpdateD", "updateE",
          "afterUpdateE", "updateF", "afterUpdateF", "getCurrentA", "setCurrentA", "getCurrentB",
          "setCurrentB", "getCurrentC", "setCurrentC", "saveToUndoHistory",
          "showColourPickerArguments", "setColourPickerColour"]) ∧
      (∀ m ∈ codes.flatMap Code.mentions, m.key? = some "afterNewMapObject".toList →
        m.Guarded ['w'] "afterNewMapObject".toList ∧ ¬ m.Assigned) ∧
      ∃ m ∈ codes.flatMap Code.mentions, m.key? = some "mapObject".toList ∧ m.Assigned := by
  have valid : Sample.settings.validate = .ok () := by rfl
  obtain ⟨-, -, -, runs, agree⟩ := slots_agree valid
  obtain ⟨o, done⟩ := Sample.patched
  obtain ⟨text, -, run⟩ := runs Sample.source o done
  obtain ⟨⟨codes, grafting⟩, all⟩ := agree _ _ _ run
  obtain ⟨-, -, keys, guarded, assigned⟩ := all codes grafting
  exact ⟨valid, o, text, codes, done, run, grafting, keys,
    guarded _ (.tail _ (.head _)) rfl, assigned _ (.head _) nofun⟩

end Settings

end HookGraft

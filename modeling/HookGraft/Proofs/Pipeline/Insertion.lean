import HookGraft.Proofs.Pipeline.Runs

/-!
# What patching keeps

All rules but one only insert: what they are applied to is found again in what they leave, in the
same order. The chat listener takes out one call. The rules before it may have inserted code on
either side of that call, and even within it; in the raw text the call comes from one piece, which
is no longer than the call.

## Main definitions

* `Rule.Inserts`: rules that only insert

## Main results

* `exists_piece_of_sublist`: a piece taken out of a text comes from one piece of each text inserted
  into
* `Settings.keeps_text`: what the standard pipeline takes out of a text
-/

namespace HookGraft

/-- Rules that only insert. -/
def Rule.Inserts (rule : Rule) : Prop :=
  ∀ text b o b', (rule.apply text).on b = (.ok o, b') → text.Sublist o.text

theorem MapObject.inserts (key : String) : (MapObject.rule key).Inserts :=
  fun text b o b' done => ((MapObject.apply_meets key text b).success o b' done).2

theorem MapEncoder.inserts : MapEncoder.rule.Inserts :=
  fun text b o b' done => ((MapEncoder.apply_meets text b).success o b' done).2

theorem ResetState.inserts {selection update : List String} {rule : Rule}
    (made : ResetState.rule? selection update = .ok rule) : rule.Inserts := by
  obtain ⟨three, six, rfl⟩ := ResetState.rule?_eq_ok made
  exact fun text b o b' done => ((ResetState.apply_meets three six text b).success o b' done).2

theorem UndoHistory.inserts : UndoHistory.rule.Inserts :=
  fun text b o b' done => ((UndoHistory.apply_meets text b).success o b' done).2

theorem ColourPicker.inserts (inputId : String) : (ColourPicker.rule inputId).Inserts :=
  fun text b o b' done => ((ColourPicker.apply_meets inputId text b).success o b' done).2

theorem ChatListener.without {text : Text} {b b' : Bindings} {o : RuleOutcome}
    (done : (ChatListener.rule.apply text).on b = (.ok o, b')) : Without text o.text :=
  ((ChatListener.apply_meets text b).success o b' done).2

/-- What is taken out of a text comes from one piece of any text that was inserted into before. -/
theorem exists_piece_of_sublist {raw text out : Text} (inserted : raw.Sublist text)
    (without : ChatListener.Without text out) :
    ∃ kept removed rest : Text, raw = kept ++ removed ++ rest ∧ removed.length ≤ 61 ∧
      (kept ++ rest).Sublist out := by
  obtain ⟨before, call, after, rfl, short, rfl⟩ := without
  obtain ⟨upTo, rest, rfl, front, back⟩ := List.sublist_append_iff.1 inserted
  obtain ⟨kept, removed, rfl, left, right⟩ := List.sublist_append_iff.1 front
  exact ⟨kept, removed, rest, rfl, Nat.le_trans right.length_le short, left.append back⟩

/-- A run of the standard pipeline takes out one piece. -/
theorem Settings.Valid.exists_piece {s : Settings} (valid : s.Valid) {raw text : Text}
    {b b' : Bindings} (run : Executes s.pipeline.rules raw b text b') :
    ∃ kept removed rest : Text, raw = kept ++ removed ++ rest ∧ removed.length ≤ 61 ∧
      (kept ++ rest).Sublist text := by
  have made := ResetState.rule?_of_length valid.three valid.six
  obtain ⟨text₁, b₁, earlier, run⟩ := Executes.split [MapObject.rule s.anchorKey, MapEncoder.rule,
    ResetState.ruleFor s.selectionCapabilities s.updateCapabilities, UndoHistory.rule] run
  obtain ⟨text₂, b₂, chat, later⟩ := Executes.split [ChatListener.rule] run
  have inserted : raw.Sublist text₁ := earlier.sublist <| by
    refine List.forall_mem_cons.2 ⟨MapObject.inserts s.anchorKey, ?_⟩
    refine List.forall_mem_cons.2 ⟨MapEncoder.inserts, ?_⟩
    refine List.forall_mem_cons.2 ⟨ResetState.inserts made, ?_⟩
    exact List.forall_mem_singleton.2 UndoHistory.inserts
  have kept : text₂.Sublist text :=
    later.sublist (List.forall_mem_singleton.2 (ColourPicker.inserts s.colourInputId))
  obtain _ | ⟨here, last⟩ := chat
  cases last
  obtain ⟨kept, removed, rest, whole, short, inside⟩ :=
    exists_piece_of_sublist inserted (ChatListener.without here)
  exact ⟨kept, removed, rest, whole, short, inside.trans ‹_›⟩

/-- All standard rules but the chat listener only insert, and the chat listener takes out one piece
of the text that it is applied to. A run of the standard pipeline takes out one piece of the raw
text, of at most 61 characters. -/
theorem Settings.keeps_text :
    (∀ key, (MapObject.rule key).Inserts) ∧
    MapEncoder.rule.Inserts ∧
    (∀ selection update rule, ResetState.rule? selection update = .ok rule → rule.Inserts) ∧
    UndoHistory.rule.Inserts ∧
    (∀ inputId, (ColourPicker.rule inputId).Inserts) ∧
    (∀ text b o b', (ChatListener.rule.apply text).on b = (.ok o, b') →
      ∃ before removed after, text = before ++ removed ++ after ∧ removed.length ≤ 61 ∧
        o.text = before ++ after) ∧
    ∀ (s : Settings) (raw : Text) (o : PatchOutcome), s.validate = .ok () → patch raw s = .ok o →
      ∃ kept removed rest, raw = kept ++ removed ++ rest ∧ removed.length ≤ 61 ∧
        (kept ++ rest).Sublist o.text := by
  refine ⟨MapObject.inserts, MapEncoder.inserts, fun _ _ _ => ResetState.inserts,
    UndoHistory.inserts, ColourPicker.inserts, fun _ _ _ _ => ChatListener.without, ?_⟩
  intro s raw o checked done
  rw [Pipeline.patch_eq checked] at done
  obtain ⟨text, finished, run⟩ := Pipeline.executes_of_run done
  obtain ⟨kept, removed, rest, whole, short, inside⟩ :=
    (Settings.valid_of_validate checked).exists_piece run
  refine ⟨kept, removed, rest, whole, short, inside.trans ?_⟩
  rw [finished, Pipeline.finish]
  split
  · exact List.sublist_append_right _ text
  · exact List.Sublist.refl text

/-- The sample loses no more than one piece, and nothing by the first rule. -/
theorem Settings.keeps_text_of_sample :
    Sample.settings.validate = .ok () ∧ ∃ o, patch Sample.source Sample.settings = .ok o ∧
      (∃ kept removed rest, Sample.source = kept ++ removed ++ rest ∧ removed.length ≤ 61 ∧
        (kept ++ rest).Sublist o.text) ∧
      ∃ first b, ((MapObject.rule "rxid").apply Sample.source).on (Bindings.seeded ['w']) =
        (.ok first, b) ∧ Sample.source.Sublist first.text := by
  obtain ⟨inserts, -, -, -, -, -, keeps⟩ := keeps_text
  have valid : Sample.settings.validate = .ok () := by rfl
  obtain ⟨o, done⟩ := Sample.patched
  refine ⟨valid, o, done, keeps Sample.settings Sample.source o valid done, ?_⟩
  rw [Pipeline.patch_eq valid] at done
  obtain ⟨text, -, run⟩ := Pipeline.executes_of_run done
  obtain _ | ⟨here, -⟩ := run
  exact ⟨_, _, here, inserts "rxid" Sample.source _ _ _ here⟩

end HookGraft

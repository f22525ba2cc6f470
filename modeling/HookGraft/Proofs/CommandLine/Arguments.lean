import HookGraft.CommandLine.Options
import HookGraft.Text.Lemmas
import Mathlib.Data.List.Induction
import Mathlib.Data.List.Nodup

/-!
# Command lines for options

Whatever options are wanted, there are arguments that ask for them: each flag and each option that
is set is written once, in any order, and the path of the input comes last, behind `--`. Paths may be
any texts. A flag or an option that is written twice is refused.

## Main definitions

* `WrittenArgument`: a flag, or an option with its value, as one argument
* `Writes`: arguments that write the flags and the options that are set, each once
* `Options.written`: such arguments

## Main results

* `ArgumentReader.read_text`: what one argument does
* `ArgumentReader.read_texts`, `ArgumentReader.read_repeated`: what a line of arguments does
* `Options.ofArguments_of_writes`: options are read back from every line that writes them
-/

namespace HookGraft

/-! ## Writing arguments -/

/-- The long name of a flag. -/
def Flag.long : Flag → String
  | .report => "report"
  | .check => "check"
  | .listHooks => "list-hooks"
  | .verbose => "verbose"

/-- The long name of an option. -/
def Setting.long : Setting → String
  | .output => "output"
  | .config => "config"

/-- A flag, or an option with its value, as one argument. -/
inductive WrittenArgument where
  | flag (f : Flag)
  /-- the flag for more logging by its letter -/
  | verboseLetter
  | setting (s : Setting) (value : String)
  deriving DecidableEq

namespace WrittenArgument

/-- What an argument is a flag or an option for. -/
def name : WrittenArgument → ArgumentName
  | flag f => .flag f
  | verboseLetter => .flag .verbose
  | setting s _ => .setting s

/-- How an argument is written. -/
def text : WrittenArgument → String
  | flag f => "--" ++ f.long
  | verboseLetter => "-v"
  | setting s value => "--" ++ s.long ++ "=" ++ value

/-- The options with what an argument sets. -/
def apply (o : Options) : WrittenArgument → Options
  | flag f => o.setFlag f
  | verboseLetter => o.setFlag .verbose
  | setting s value => o.setValue value s

end WrittenArgument

/-- Arguments that write the flags and the options that are set, each once. -/
structure Writes (items : List WrittenArgument) (o : Options) : Prop where
  once : (items.map WrittenArgument.name).Nodup
  flags : ∀ f, o.hasFlag f = true ↔ .flag f ∈ items.map WrittenArgument.name
  values : ∀ s value, o.value? s = some value ↔ .setting s value ∈ items

variable {o o' : Options} {items before after : List WrittenArgument} {item copy : WrittenArgument}
  {f g : Flag} {s t : Setting} {value : String}

namespace Options

@[simp] theorem hasFlag_setFlag : (o.setFlag f).hasFlag g = (g == f || o.hasFlag g) := by
  cases f <;> cases g <;> rfl

@[simp] theorem value?_setFlag : (o.setFlag f).value? s = o.value? s := by
  cases f <;> cases s <;> rfl

@[simp] theorem hasFlag_setValue : (o.setValue value s).hasFlag f = o.hasFlag f := by
  cases s <;> cases f <;> rfl

@[simp] theorem value?_setValue :
    (o.setValue value s).value? t = if t = s then some value else o.value? t := by
  cases s <;> cases t <;> rfl

/-- Options are the same if their flags, their values and their inputs are. -/
theorem ext_of (flags : ∀ f, o.hasFlag f = o'.hasFlag f) (values : ∀ s, o.value? s = o'.value? s)
    (input : o.input = o'.input) : o = o' := by
  obtain ⟨_, _, _, _, _, _, _⟩ := o
  obtain ⟨_, _, _, _, _, _, _⟩ := o'
  obtain rfl := input
  obtain rfl := values .output
  obtain rfl := values .config
  obtain rfl := flags .report
  obtain rfl := flags .check
  obtain rfl := flags .listHooks
  obtain rfl := flags .verbose
  rfl

end Options

theorem WrittenArgument.input_apply : (item.apply o).input = o.input := by
  cases item with
  | flag f => cases f <;> rfl
  | verboseLetter => rfl
  | setting s value => cases s <;> rfl

/-- Whether a flag or an option is set. -/
def Options.isSet (o : Options) : ArgumentName → Bool
  | .flag f => o.hasFlag f
  | .setting s => (o.value? s).isSome
  | .help | .version => false

namespace Writes

theorem nil : Writes [] {} where
  once := .nil
  flags f := by cases f <;> decide
  values s value := by cases s <;> simp [Options.value?]

/-- What is set is what has been written. -/
theorem isSet_iff (h : Writes items o) (item : WrittenArgument) :
    o.isSet item.name = true ↔ item.name ∈ items.map WrittenArgument.name := by
  cases item with
  | flag f => exact h.flags f
  | verboseLetter => exact h.flags .verbose
  | setting s value =>
    rw [WrittenArgument.name, Options.isSet, Option.isSome_iff_exists, List.mem_map]
    constructor
    · rintro ⟨value, here⟩
      exact ⟨.setting s value, (h.values s value).1 here, rfl⟩
    · rintro ⟨other, member, same⟩
      cases other with
      | setting t value =>
        obtain rfl := ArgumentName.setting.inj same
        exact ⟨value, (h.values t value).2 member⟩
      | _ => contradiction

/-- One more argument sets what it is for. -/
theorem concat (h : Writes items o) (new : item.name ∉ items.map WrittenArgument.name) :
    Writes (items ++ [item]) (item.apply o) where
  once := by
    rw [List.map_append]
    exact List.concat_eq_append ▸ h.once.concat new
  flags f := by
    rw [List.map_append, List.mem_append, ← h.flags f]
    cases item <;> simp [WrittenArgument.apply, WrittenArgument.name, or_comm]
  values s value := by
    rw [List.mem_append, ← h.values s value]
    cases item with
    | setting t other =>
      have absent : o.value? t = none :=
        Option.not_isSome_iff_eq_none.1 (mt (h.isSet_iff (.setting t other)).1 new)
      by_cases same : s = t
      · subst same
        simp [WrittenArgument.apply, absent, eq_comm]
      · simp [WrittenArgument.apply, same]
    | _ => simp [WrittenArgument.apply]

/-- The arguments determine all but the input. -/
theorem unique (h : Writes items o) (h' : Writes items o') (input : o.input = o'.input) :
    o = o' := by
  refine Options.ext_of (fun f => ?_) (fun s => ?_) input
  · rw [Bool.eq_iff_iff, h.flags, h'.flags]
  · ext value
    rw [h.values, h'.values]

end Writes

/-! ## Reading arguments -/

namespace ArgumentReader

/-- The reader behind arguments none of which awaits its value. -/
def having (o : Options) : ArgumentReader := { options := o }

/-- An argument with two hyphens and more behind them has a long name. -/
theorem read_of_hyphens {argument : String} {c : Char} {rest : Text}
    (whole : argument.toList = '-' :: '-' :: c :: rest) :
    (having o).read argument = (having o).readLong (c :: rest) := by
  simp only [read, having, whole]
  rfl

theorem read_setting :
    (having o).read (WrittenArgument.setting s value).text = (having o).store s value := by
  have free : '=' ∉ s.long.toList := by cases s <;> decide
  have named : ArgumentName.ofLong? s.long = some (.setting s) := by cases s <;> rfl
  obtain ⟨c, rest, long⟩ : ∃ c rest, s.long.toList = c :: rest := by
    cases s <;> exact ⟨_, _, rfl⟩
  have whole : (WrittenArgument.setting s value).text.toList =
      '-' :: '-' :: c :: (rest ++ '=' :: value.toList) := by
    simp [WrittenArgument.text, long]
  have split : splitValue (c :: (rest ++ '=' :: value.toList)) =
      (s.long.toList, some value.toList) := by
    rw [splitValue, ← List.cons_append, ← long, Text.cutFirst?_append_cons value.toList free]
  rw [read_of_hyphens whole, readLong, split]
  simp only [String.ofList_toList, named, Option.map_some]
  rfl

/-- An argument sets what it is for, unless that is set. -/
theorem read_text (o : Options) (item : WrittenArgument) : (having o).read item.text =
    if o.isSet item.name then .error .repeated else .ok (having (item.apply o)) := by
  cases item with
  | flag f => cases f <;> rfl
  | verboseLetter =>
    have letter : (having o).read "-v" = (having o).readFlag .verbose >>= .ok := rfl
    have flag : (having o).readFlag .verbose =
        if o.hasFlag .verbose then .error .repeated else .ok (having (o.setFlag .verbose)) := rfl
    rw [WrittenArgument.text, letter, flag, WrittenArgument.name, Options.isSet]
    cases o.hasFlag .verbose <;> rfl
  | setting s value => rw [read_setting]; rfl

/-- Arguments for different flags and options set what they are for. -/
theorem read_texts (once : (items.map WrittenArgument.name).Nodup) :
    ∃ o, (items.map WrittenArgument.text).foldlM read {} = .ok (having o) ∧ o.input = none ∧
      Writes items o := by
  -- from the end, as only what stands before an argument can make the reader refuse it
  induction items using List.reverseRecOn with
  | nil => exact ⟨{}, rfl, rfl, .nil⟩
  | append_singleton items item ih =>
    rw [List.map_append, List.nodup_append] at once
    have new : item.name ∉ items.map WrittenArgument.name := fun old =>
      once.2.2 _ old _ List.mem_cons_self rfl
    obtain ⟨o, read, input, writes⟩ := ih once.1
    refine ⟨item.apply o, ?_, ?_, writes.concat new⟩
    · have fresh : ¬ o.isSet item.name = true := mt (writes.isSet_iff item).1 new
      rw [List.map_append, List.foldlM_append, read]
      show ((having o).read item.text >>= pure) = _
      rw [read_text, if_neg fresh]
      rfl
    · rw [WrittenArgument.input_apply, input]

/-- A second argument for a flag or an option is refused, whatever follows. -/
theorem read_repeated (twice : ¬ (items.map WrittenArgument.name).Nodup) (ending : List String) :
    (items.map WrittenArgument.text ++ ending).foldlM read {} = .error .repeated := by
  induction items using List.reverseRecOn generalizing ending with
  | nil => exact absurd .nil twice
  | append_singleton items item ih =>
    rw [List.map_append, List.append_assoc]
    by_cases once : (items.map WrittenArgument.name).Nodup
    · obtain ⟨o, read, -, writes⟩ := read_texts once
      have old : item.name ∈ items.map WrittenArgument.name := by
        by_contra new
        refine twice ?_
        rw [List.map_append]
        exact List.concat_eq_append ▸ once.concat new
      rw [List.foldlM_append, read]
      show ((having o).read item.text >>= fun r => ending.foldlM ArgumentReader.read r) = _
      rw [read_text, if_pos ((writes.isSet_iff item).2 old)]
      rfl
    · exact ih once _

end ArgumentReader

/-! ## Reading options back -/

namespace Options

/-- The argument by which a flag or an option is set, if it is. -/
def argument? (o : Options) : ArgumentName → Option WrittenArgument
  | .flag f => if o.hasFlag f then some (.flag f) else none
  | .setting s => (o.value? s).map (.setting s)
  | .help | .version => none

/-- The flags and the options that are set, as arguments. -/
def written (o : Options) : List WrittenArgument :=
  [.flag .report, .flag .check, .flag .listHooks, .flag .verbose, .setting .output,
    .setting .config].filterMap o.argument?

theorem name_of_argument? {n : ArgumentName} (h : o.argument? n = some item) : item.name = n := by
  cases n with
  | flag f =>
    obtain ⟨-, same⟩ := Option.ite_none_right_eq_some.1 h
    obtain rfl := Option.some.inj same
    rfl
  | setting s =>
    obtain ⟨value, -, rfl⟩ := Option.map_eq_some_iff.1 h
    rfl
  | help | version => contradiction

theorem mem_written_iff : item ∈ o.written ↔ o.argument? item.name = some item := by
  rw [written, List.mem_filterMap]
  constructor
  · rintro ⟨n, -, here⟩
    rwa [name_of_argument? here]
  · intro here
    refine ⟨item.name, ?_, here⟩
    cases item with
    | flag f => cases f <;> decide
    | verboseLetter => decide
    | setting s value => cases s <;> simp [WrittenArgument.name]

theorem nodup_names_written : (o.written.map WrittenArgument.name).Nodup := by
  have kept (names : List ArgumentName) :
      ((names.filterMap o.argument?).map WrittenArgument.name).Sublist names := by
    induction names with
    | nil => exact .slnil
    | cons n names ih =>
      cases here : o.argument? n with
      | none => rw [List.filterMap_cons_none here]; exact ih.cons n
      | some item =>
        rw [List.filterMap_cons_some here, List.map_cons, name_of_argument? here]
        exact ih.cons_cons n
  exact (kept _).nodup (by decide)

theorem writes_written (o : Options) : Writes o.written o where
  once := nodup_names_written
  flags f := by
    rw [List.mem_map]
    constructor
    · exact fun set => ⟨.flag f, mem_written_iff.2 (if_pos set), rfl⟩
    · rintro ⟨item, member, named⟩
      have here := mem_written_iff.1 member
      rw [named] at here
      exact (Option.ite_none_right_eq_some.1 here).1
  values s value := by
    rw [mem_written_iff]
    show _ ↔ (o.value? s).map (WrittenArgument.setting s) = some (.setting s value)
    simp

/-- **Every set of options has a command line**, and in any order. Arguments that write the flags
and the options that are set, each once, are read back as these options, with the path of the input
behind `--`, whatever the paths are. With a hyphen in the place of the path, or with no path, there is
no input. With one more argument for a flag or an option that is written already, at whatever place,
the line is refused. -/
theorem ofArguments_of_writes (o : Options) (notHyphen : o.input ≠ some "-") :
    (∃ items, Writes items o) ∧
    ∀ items, Writes items o →
      ofArguments (items.map WrittenArgument.text ++ "--" :: o.input.toList) = .ok o ∧
      ofArguments (items.map WrittenArgument.text ++ ["--", "-"]) = .ok { o with input := none } ∧
      ofArguments (items.map WrittenArgument.text ++ ["--"]) = .ok { o with input := none } ∧
      ofArguments (items.map WrittenArgument.text) = .ok { o with input := none } ∧
      ∀ before after copy, items = before ++ after →
        copy.name ∈ items.map WrittenArgument.name → ∀ ending,
          ofArguments ((before ++ copy :: after).map WrittenArgument.text ++ ending) =
            .error .repeated := by
  refine ⟨⟨_, writes_written o⟩, fun items writes => ?_⟩
  obtain ⟨o', read, input, writes'⟩ := ArgumentReader.read_texts writes.once
  have same : { o with input := none } = o' :=
    Writes.unique ⟨writes.once, writes.flags, writes.values⟩ writes' input.symm
  have line (ending : List String) : ofArguments (items.map WrittenArgument.text ++ ending) =
      ending.foldlM ArgumentReader.read (.having { o with input := none }) >>=
        ArgumentReader.finish := by
    rw [ofArguments, List.foldlM_append, read, ← same]
    rfl
  refine ⟨?_, by rw [line]; rfl, by rw [line]; rfl, ?_, ?_⟩
  · rw [line]
    cases path : o.input with
    | none =>
      show Except.ok { o with input := none } = Except.ok o
      rw [← path]
    | some file =>
      have kept : (some file).filter (· != "-") = some file := by
        have other : file ≠ "-" := fun same => notHyphen (path.trans (congrArg some same))
        simp [other]
      show Except.ok { o with input := (some file).filter (· != "-") } = Except.ok o
      rw [kept, ← path]
  · rw [← List.append_nil (items.map _), line]
    rfl
  · rintro before after copy rfl old ending
    have twice : ¬ ((before ++ copy :: after).map WrittenArgument.name).Nodup := fun once =>
      (List.nodup_cons.1 ((List.perm_middle.map _).nodup_iff.1 once)).1 old
    rw [ofArguments, ArgumentReader.read_repeated twice]
    rfl

/-- Paths that are empty, that look like an option or hold equals signs; and the flag for more
logging once more, by its long name. -/
theorem ofArguments_of_writes_sample :
    let o : Options :=
      { input := some "--check", output := some "", config := some "-a=b", verbose := true }
    let items := [.setting .config "-a=b", .verboseLetter, .setting .output ""]
    Writes items o ∧
      ofArguments ["--config=-a=b", "-v", "--output=", "--", "--check"] = .ok o ∧
      ofArguments ["--config=-a=b", "-v", "--output=", "--", "-"] = .ok { o with input := none } ∧
      ofArguments ["--verbose", "--config=-a=b", "-v", "--output=", "--", "--check"] =
        .error .repeated := by
  intro o items
  have writes : Writes items o := by
    refine ⟨by decide, fun f => ?_, fun s value => ?_⟩
    · cases f <;> decide
    · cases s <;> simp [o, items, Options.value?, eq_comm]
  obtain ⟨-, reads⟩ := ofArguments_of_writes o (by decide)
  obtain ⟨whole, hyphen, -, -, twice⟩ := reads items writes
  exact ⟨writes, whole, hyphen,
    twice [] items (.flag .verbose) rfl (by decide) ["--", "--check"]⟩

end Options

end HookGraft

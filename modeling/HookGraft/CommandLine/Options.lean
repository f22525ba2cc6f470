import HookGraft.Text

/-!
# Arguments of the command line

Flags and options may stand in any order, before or after the path of the input. Flags of one letter
may be run together, and the last letter may be an option with its value behind it. Everything
behind `--` is a path.

## Main definitions

* `Options`: what the arguments ask for
* `ArgumentError`: why arguments are refused, or asked for something else
* `ArgumentReader`: arguments read in part
* `Options.ofArguments`: what arguments ask for
-/

namespace HookGraft

/-- What the arguments ask for. Arguments that are not in UTF-8 are refused before they are read, so
paths are texts. -/
structure Options where
  /-- where the program to be patched is read, unless from standard input -/
  input : Option String := none
  /-- where the patched program is written, unless to standard output -/
  output : Option String := none
  /-- where the settings are read, unless the defaults are used -/
  config : Option String := none
  /-- whether a report is printed -/
  report : Bool := false
  /-- whether nothing is written -/
  check : Bool := false
  /-- whether the hooks are listed instead -/
  listHooks : Bool := false
  /-- whether more is logged -/
  verbose : Bool := false
  deriving DecidableEq

/-- Why arguments are refused, or asked for something else. -/
inductive ArgumentError where
  /-- a flag or an option that does not exist, or a second path -/
  | unknownArgument
  /-- an option without its value -/
  | missingValue
  /-- a flag or an option that comes twice -/
  | repeated
  /-- a flag with a value -/
  | unneededValue
  | helpAsked
  | versionAsked
  deriving DecidableEq

/-- An argument without a value. -/
inductive Flag where
  | report
  | check
  | listHooks
  | verbose
  deriving DecidableEq

/-- An argument with a value. -/
inductive Setting where
  | output
  | config
  deriving DecidableEq

/-- What the name of an argument stands for. -/
inductive ArgumentName where
  | flag (f : Flag)
  | setting (s : Setting)
  | help
  | version
  deriving DecidableEq

/-- What a name behind two hyphens stands for. -/
def ArgumentName.ofLong? (name : String) : Option ArgumentName :=
  match name with
  | "output" => some (.setting .output)
  | "config" => some (.setting .config)
  | "report" => some (.flag .report)
  | "check" => some (.flag .check)
  | "list-hooks" => some (.flag .listHooks)
  | "verbose" => some (.flag .verbose)
  | "help" => some .help
  | "version" => some .version
  | _ => none

/-- What a letter behind one hyphen stands for. -/
def ArgumentName.ofShort? (letter : Char) : Option ArgumentName :=
  match letter with
  | 'o' => some (.setting .output)
  | 'v' => some (.flag .verbose)
  | 'h' => some .help
  | 'V' => some .version
  | _ => none

namespace Options

/-- Whether a flag is set. -/
def hasFlag (o : Options) : Flag → Bool
  | .report => o.report
  | .check => o.check
  | .listHooks => o.listHooks
  | .verbose => o.verbose

/-- Sets a flag. -/
def setFlag (o : Options) : Flag → Options
  | .report => { o with report := true }
  | .check => { o with check := true }
  | .listHooks => { o with listHooks := true }
  | .verbose => { o with verbose := true }

/-- The value of an option. -/
def value? (o : Options) : Setting → Option String
  | .output => o.output
  | .config => o.config

/-- Gives an option a value. -/
def setValue (o : Options) (value : String) : Setting → Options
  | .output => { o with output := some value }
  | .config => { o with config := some value }

end Options

/-- Arguments read in part. An option is settled, and refused if it has no value or comes twice,
only when the next argument that is known has been read. -/
structure ArgumentReader where
  options : Options := {}
  /-- an option that is not settled, with its value if that has been read -/
  pending : Option (Setting × Option String) := none
  /-- whether only paths are left -/
  pathsOnly : Bool := false
  deriving DecidableEq

namespace ArgumentReader

/-- Gives an option a value, unless it has one. -/
def store (r : ArgumentReader) (s : Setting) (value : String) :
    Except ArgumentError ArgumentReader :=
  if (r.options.value? s).isSome then .error .repeated
  else .ok { r with options := r.options.setValue value s }

/-- Settles the option that is pending. -/
def settle (r : ArgumentReader) : Except ArgumentError ArgumentReader :=
  match r.pending with
  | none => .ok r
  | some (_, none) => .error .missingValue
  | some (s, some value) => { r with pending := none }.store s value

/-- Reads a flag. -/
def readFlag (r : ArgumentReader) (f : Flag) : Except ArgumentError ArgumentReader := do
  let r ← r.settle
  if r.options.hasFlag f then .error .repeated
  else return { r with options := r.options.setFlag f }

/-- Reads an option, perhaps with its value. -/
def readSetting (r : ArgumentReader) (s : Setting) (value : Option String) :
    Except ArgumentError ArgumentReader := do
  let r ← r.settle
  match value with
  | some value => r.store s value
  | none => return { r with pending := some (s, none) }

/-- Reads a path. -/
def readPath (r : ArgumentReader) (path : String) : Except ArgumentError ArgumentReader :=
  -- a second path is refused even if an option is not settled
  if r.options.input.isSome then .error .unknownArgument
  else do
    let r ← r.settle
    return { r with options := { r.options with input := some path } }

/-- The parts of a text before and behind its first equals sign. -/
def splitValue (text : Text) : Text × Option Text :=
  match Text.cutFirst? ['='] text with
  | some (name, value) => (name, some value)
  | none => (text, none)

/-- Reads an argument behind two hyphens. -/
def readLong (r : ArgumentReader) (text : Text) : Except ArgumentError ArgumentReader :=
  let (name, value) := splitValue text
  match ArgumentName.ofLong? (String.ofList name), value with
  | none, _ => .error .unknownArgument
  | some (.setting s), value => r.readSetting s (value.map String.ofList)
  | some _, some _ => .error .unneededValue
  | some (.flag f), none => r.readFlag f
  | some .help, none => do let _ ← r.settle; .error .helpAsked
  | some .version, none => do let _ ← r.settle; .error .versionAsked

/-- The value of an option that stands directly behind its letter, or behind an equals sign. -/
def attachedValue? : Text → Option Text
  | [] => none
  | '=' :: value => some value
  | value => some value

/-- Reads letters behind one hyphen. -/
def readShort (r : ArgumentReader) : Text → Except ArgumentError ArgumentReader
  | [] => .ok r
  | letter :: rest =>
    match ArgumentName.ofShort? letter with
    | none => .error .unknownArgument
    | some (.flag f) => do readShort (← r.readFlag f) rest
    | some (.setting s) => r.readSetting s ((attachedValue? rest).map String.ofList)
    | some .help => do let _ ← r.settle; .error .helpAsked
    | some .version => do let _ ← r.settle; .error .versionAsked

/-- Reads the value of the option that is pending, or a path. -/
def readBare (r : ArgumentReader) (argument : String) : Except ArgumentError ArgumentReader :=
  match r.pending with
  | some (s, none) => .ok { r with pending := some (s, some argument) }
  | _ => r.readPath argument

/-- Reads an argument. -/
def read (r : ArgumentReader) (argument : String) : Except ArgumentError ArgumentReader :=
  if r.pathsOnly then r.readPath argument
  else
    match argument.toList with
    | ['-'] => r.readBare argument
    | ['-', '-'] => .ok { r with pathsOnly := true }
    | '-' :: '-' :: text => r.readLong text
    | '-' :: text => r.readShort text
    | _ => r.readBare argument

/-- What complete arguments ask for. A hyphen in the place of the input is standard input. -/
def finish (r : ArgumentReader) : Except ArgumentError Options := do
  let r ← r.settle
  return { r.options with input := r.options.input.filter (· != "-") }

end ArgumentReader

/-- What arguments ask for. -/
def Options.ofArguments (arguments : List String) : Except ArgumentError Options := do
  (← arguments.foldlM ArgumentReader.read {}).finish

end HookGraft

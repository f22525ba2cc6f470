import HookGraft.CommandLine.Options
import HookGraft.Pipeline.Standard
import HookGraft.Settings.Json

/-!
# Invocations

One invocation of the program reads settings and a text, patches the text and writes it. What it
reads from and writes to is a parameter.

## Main definitions

* `Host`: files and standard streams
* `Failure`: why an invocation fails
* `hookListing`: the list of all slots
* `Options.run`: one invocation
-/

namespace HookGraft

/-- Files and standard streams. What fails yields the reason that the system gives. -/
structure Host (m : Type → Type) where
  readFile : String → m (Except String ByteArray)
  readInput : m (Except String ByteArray)
  writeFile : String → Text → m (Except String Unit)
  writeOutput : Text → m (Except String Unit)
  writeError : Text → m Unit

/-! ## Failures -/

/-- What is at the bottom of a failure. -/
inductive FailureCause where
  | patching (e : PatchError)
  | system (reason : String)
  deriving DecidableEq

/-- Why an invocation fails. -/
structure Failure where
  /-- what was being done -/
  context : Option String := none
  cause : FailureCause
  deriving DecidableEq

namespace Failure

/-- The wording of a failure, from what was being done down to the reason of the system. -/
def chain (f : Failure) : List String :=
  f.context.toList ++
    match f.cause with
    | .patching (.io reason) => [(PatchError.io reason).message, reason]
    | .patching (.invalidPattern rule pattern defect) =>
      (PatchError.invalidPattern rule pattern defect).message :: defect.message?.toList
    | .patching e => [e.message]
    | .system reason => [reason]

/-- What a user is told when the program to be patched has changed its shape. -/
def formatDriftNotice : String :=
  "Whoops! The bundle could not be patched. "
    ++ "This is most likely caused by an upstream update changing its format.\n"
    ++ "Please report this error."

/-- What a user is told when the program has been patched before. -/
def alreadyPatchedNotice : String :=
  "The input already contains injected hooks; patch the original bundle instead."

/-- What a user is told about a failure that the user can do something about. -/
def notice (f : Failure) : Option String :=
  match f.cause with
  | .system _ => none
  | .patching (.alreadyPatched _) => some alreadyPatchedNotice
  | .patching e => if e.isFormatDrift then some formatDriftNotice else none

end Failure

/-! ## The list of hooks -/

/-- The name of a kind of slots. -/
def SlotKind.label : SlotKind → String
  | field => "field"
  | callable => "callable"
  | optionalCallback => "optional callback"
  | accessor => "accessor"

/-- A text filled up with spaces to a width. -/
def padTo (width : Nat) (text : Text) : Text :=
  text ++ List.replicate (width - text.length) ' '

/-- The line for a slot. -/
def HookSlot.line (slot : HookSlot) (ns : HookNamespace) : Text :=
  padTo 40 (ns.slot slot.key).toList ++ [' ']
    ++ padTo 18 slot.kind.label.toList ++ [' ']
    ++ slot.description.toList ++ ['\n']

/-- The list of all slots, one a line. -/
def hookListing (ns : HookNamespace) : Text :=
  ns.slots.flatMap fun slot => slot.line ns

/-! ## Runs -/

namespace Options

/-- What is logged: warnings and the course of a run, or each step of it. -/
def logDirectives (verbose : Bool) : String :=
  let level := if verbose then "debug" else "info"
  "splice_core=" ++ level ++ ",splice_cli=" ++ level

/-- The text that bytes stand for in UTF-8. -/
def decode (bytes : Except String ByteArray) : Except String Text :=
  match bytes with
  | .error reason => .error reason
  | .ok bytes =>
    match String.fromUTF8? bytes with
    | some text => .ok text.toList
    | none => .error "stream did not contain valid UTF-8"

variable {m : Type → Type} [Monad m] (host : Host m)

/-- Reads settings. -/
def loadSettings : Option String → ExceptT Failure m Settings
  | none => return {}
  | some path => do
    let context := some ("Failed to load config " ++ path)
    match decode (← host.readFile path) with
    | .error reason => throw { context, cause := .patching (.io reason) }
    | .ok text =>
      match Settings.ofJson text with
      | .error e => throw { context, cause := .patching e }
      | .ok s => return s

/-- Reads the text to be patched. -/
def readSource : Option String → ExceptT Failure m Text
  | none => do
    match decode (← host.readInput) with
    | .ok text => return text
    | .error reason =>
      throw { context := some "Failed to read stdin", cause := .system reason }
  | some path => do
    match decode (← host.readFile path) with
    | .ok text => return text
    | .error reason =>
      throw { context := some ("Failed to read " ++ path), cause := .system reason }

/-- Writes a text. -/
def writeText (text : Text) : Option String → ExceptT Failure m Unit
  | none => do
    match ← host.writeOutput text with
    | .ok () => return ()
    | .error reason => throw { cause := .system reason }
  | some path => do
    match ← host.writeFile path text with
    | .ok () => return ()
    | .error reason =>
      throw { context := some ("Failed to write " ++ path), cause := .system reason }

/-- One invocation. -/
def run (o : Options) : ExceptT Failure m Unit := do
  let settings ← loadSettings host o.config
  if o.listHooks then
    writeText host (hookListing settings.hookNamespace) none
  else
    let source ← readSource host o.input
    match patch source settings with
    | .error e => throw { cause := .patching e }
    | .ok outcome =>
      if o.report then
        host.writeError (outcome.report.toJson.pretty ++ ['\n'])
      if !o.check then
        writeText host outcome.text o.output

end Options

end HookGraft

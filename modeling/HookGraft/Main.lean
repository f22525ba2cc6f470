import HookGraft.CommandLine.Run

/-!
# The program

Connects invocations with the files and streams of the system.
-/

namespace HookGraft

/-- The reason that the system gives for a failure. -/
def systemReason (e : IO.Error) : String :=
  match e with
  | .noFileOrDirectory _ code details => s!"{details} (os error {code})"
  | .inappropriateType _ code details => s!"{details} (os error {code})"
  | .permissionDenied _ code details => s!"{details} (os error {code})"
  | .resourceExhausted _ code details => s!"{details} (os error {code})"
  | e => toString e

/-- Runs an action and keeps the reason of its failure. -/
def attempt {α : Type} (action : IO α) : IO (Except String α) := do
  match ← action.toBaseIO with
  | .ok value => return .ok value
  | .error e => return .error (systemReason e)

/-- Reads a stream to its end. -/
partial def readToEnd (stream : IO.FS.Stream) (bytes : ByteArray) : IO ByteArray := do
  let more ← stream.read 65536
  if more.isEmpty then return bytes else readToEnd stream (bytes ++ more)

/-- The files and streams of the system. -/
def systemHost : Host IO where
  readFile path := attempt (IO.FS.readBinFile path)
  readInput := attempt do readToEnd (← IO.getStdin) ByteArray.empty
  writeFile path text := attempt (IO.FS.writeFile path (String.ofList text))
  writeOutput text := attempt do
    let stream ← IO.getStdout
    stream.putStr (String.ofList text)
    stream.flush
  writeError text := IO.eprint (String.ofList text)

/-- How the program is called. -/
def usage : String :=
  "Patch an obfuscated bundle by signature and inject namespace hooks\n\n"
    ++ "Arguments: [INPUT] [-o|--output FILE] [--config FILE] [--report] [--check]\n"
    ++ "           [--list-hooks] [-v|--verbose] [-h|--help] [-V|--version]\n"

/-- What is said about arguments that are refused. -/
def ArgumentError.message : ArgumentError → String
  | unknownArgument => "error: unexpected argument"
  | missingValue => "error: a value is required"
  | repeated => "error: an argument cannot be used multiple times"
  | unneededValue => "error: unexpected value"
  | helpAsked => usage
  | versionAsked => "0.1.0"

end HookGraft

open HookGraft in
/-- Reads the arguments, runs the invocation and tells of its failure. -/
def main (arguments : List String) : IO UInt32 := do
  match Options.ofArguments arguments with
  | .error e =>
    if e = .helpAsked ∨ e = .versionAsked then
      IO.println e.message
      return 0
    else
      IO.eprintln e.message
      return 2
  | .ok options =>
    match ← (options.run systemHost).run with
    | .ok () => return 0
    | .error failure =>
      if let some notice := failure.notice then IO.eprintln notice
      IO.eprintln ("Error: " ++ "\nCaused by: ".intercalate failure.chain)
      return 1
